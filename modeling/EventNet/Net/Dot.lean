import EventNet.Net.Basic

/-!
# Nets as DOT graphs

Places are rounded records of their label and a field for the token, transitions are
boxes. Arcs point from what is taken to what is made; catalysts and inhibitors have
styles of their own.
-/

set_option autoImplicit false

namespace EventNet.Net

/-- A character of a label inside quotation marks. The marks that structure a record are
escaped like quotation marks. -/
def dotEscaped (c : Char) : List Char :=
  if c = '"' then ['\\', '"']
  else if c = '\\' then ['\\', '\\']
  else if c = '\n' then ['\\', 'n']
  else if c = '{' ∨ c = '}' ∨ c = '|' ∨ c = '<' ∨ c = '>' then ['\\', c]
  else [c]

/-- A label inside quotation marks. -/
def dotLabel (label : String) : String := String.ofList (label.toList.flatMap dotEscaped)

/-- The line of a place. A filled circle is the token at the start. -/
def dotPlace (id : PlaceId) (place : Place) : String :=
  let token := if place.factual then "\u25cf" else " "
  "    " ++ PlaceId.text id ++ " [label=\"\x7b " ++ dotLabel place.name ++ " | " ++ token ++
    " \x7d\", shape=Mrecord];\n"

/-- The line of a transition. -/
def dotTransition (id : TransitionId) (transition : Transition) : String :=
  "    " ++ TransitionId.text id ++ " [label=\"" ++ dotLabel transition.name ++
    "\", shape=box, style=filled, fillcolor=\"#ffe0b2\"];\n"

/-- The line of an arc. -/
def dotArc (arc : Arc) : String :=
  let place := PlaceId.text arc.place
  let transition := TransitionId.text arc.transition
  match arc.kind with
  | .consume => "    " ++ place ++ " -> " ++ transition ++ ";\n"
  | .produce => "    " ++ transition ++ " -> " ++ place ++ ";\n"
  | .catalyst => "    " ++ place ++ " -> " ++ transition ++ " [dir=both, style=dashed];\n"
  | .inhibit => "    " ++ place ++ " -> " ++ transition ++ " [arrowhead=odot];\n"

/-- The net as a DOT graph. -/
def toDot (net : Net) : String :=
  "digraph PetriNet \x7b\n    rankdir=LR;\n    node [fontname=\"Helvetica\"];\n" ++
    String.join (net.places.zipIdx.map fun (place, id) => dotPlace id place) ++
    String.join (net.transitions.zipIdx.map fun (transition, id) => dotTransition id transition) ++
    String.join (net.arcs.map dotArc) ++
    "\x7d\n"

end EventNet.Net
