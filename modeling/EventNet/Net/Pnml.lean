import EventNet.Net.Basic

/-!
# Nets as PNML documents

PNML is the exchange format of Petri net tools. Its core model knows plain arcs only: a
produced place is the target of its arc and every other place a source, and the arcs
of catalysts and inhibitors carry their kind in an element of its own.
-/

set_option autoImplicit false

namespace EventNet.Net

/-- The identifier of the core model. -/
def pnmlType : String := "http://www.pnml.org/version-2009/grammar/pnmlcoremodel"

/-- A character of a text in a document. -/
def xmlEscaped (c : Char) : List Char :=
  match c with
  | '&' => ['&', 'a', 'm', 'p', ';']
  | '<' => ['&', 'l', 't', ';']
  | '>' => ['&', 'g', 't', ';']
  | '"' => ['&', 'q', 'u', 'o', 't', ';']
  | '\'' => ['&', 'a', 'p', 'o', 's', ';']
  | c => [c]

/-- A text in a document. -/
def xmlText (text : String) : String := String.ofList (text.toList.flatMap xmlEscaped)

/-- The element of a name. -/
def pnmlName (name : String) : String :=
  "        <name><text>" ++ xmlText name ++ "</text></name>\n"

/-- The element of a place. -/
def pnmlPlace (id : PlaceId) (place : Place) : String :=
  "      <place id=\"" ++ PlaceId.text id ++ "\">\n" ++ pnmlName place.name ++
    "        <initialMarking><text>" ++ (if place.factual then "1" else "0") ++
    "</text></initialMarking>\n      </place>\n"

/-- The element of a transition. -/
def pnmlTransition (id : TransitionId) (transition : Transition) : String :=
  "      <transition id=\"" ++ TransitionId.text id ++ "\">\n" ++ pnmlName transition.name ++
    "      </transition>\n"

/-- The ends of an arc, the source first. -/
def arcEnds (arc : Arc) : String × String :=
  match arc.kind with
  | .produce => (TransitionId.text arc.transition, PlaceId.text arc.place)
  | .consume | .catalyst | .inhibit =>
    (PlaceId.text arc.place, TransitionId.text arc.transition)

/-- The element of an arc. -/
def pnmlArc (id : ArcId) (arc : Arc) : String :=
  let (source, target) := arcEnds arc
  let start := "      <arc id=\"" ++ ArcId.text id ++ "\" source=\"" ++ source ++
    "\" target=\"" ++ target ++ "\""
  match arc.kind with
  | .catalyst | .inhibit =>
    start ++ ">\n        <type><text>" ++ arc.kind.word ++ "</text></type>\n      </arc>\n"
  | .consume | .produce => start ++ "/>\n"

/-- The net as a PNML document. -/
def toPnml (net : Net) : String :=
  "<?xml version=\"1.0\" encoding=\"utf-8\"?>\n<pnml>\n  <net id=\"net1\" type=\"" ++
    pnmlType ++ "\">\n    <page id=\"page1\">\n" ++
    String.join (net.places.zipIdx.map fun (place, id) => pnmlPlace id place) ++
    String.join (net.transitions.zipIdx.map fun (transition, id) => pnmlTransition id transition) ++
    String.join (net.arcs.zipIdx.map fun (arc, id) => pnmlArc id arc) ++
    "    </page>\n  </net>\n</pnml>\n"

end EventNet.Net
