import EventNet.Net.Consistency

/-!
# Growing a net

New places, transition instances and arcs. The indices grow along with the tables, so
a consistent net stays consistent. An arc that is there already is found again
instead of being added twice.
-/

set_option autoImplicit false

namespace EventNet.Net

/-- A new place without arcs, and its identifier. -/
def addPlace (net : Net) (place : Place) : PlaceId × Net :=
  (net.places.length,
    { net with places := net.places ++ [place], placeArcs := net.placeArcs ++ [[]] })

/-- A new transition instance without arcs, as the last of its bus, and its identifier. -/
def addTransition (net : Net) (name : String) : TransitionId × Net :=
  let id := net.transitions.length
  (id,
    { net with
      transitions := net.transitions ++ [{ name }]
      buses := net.buses.upsert name fun members => members.getD [] ++ [id] })

/-- The first arc at a transition that leads to this place and has this kind. -/
def findArc? (net : Net) (place : PlaceId) (transition : TransitionId) (kind : ArcKind) :
    Option ArcId := do
  let entry ← net.transitions[transition]?
  entry.arcs.find? fun id =>
    net.arcs[id]?.any fun arc => arc.place == place && arc.kind == kind

/-- The net with one more arc, listed by the indices of its place and its transition. -/
def appendArc (net : Net) (arc : Arc) : Net :=
  let id := net.arcs.length
  { net with
    arcs := net.arcs ++ [arc]
    transitions := net.transitions.modify arc.transition fun transition =>
      { transition with arcs := transition.arcs ++ [id] }
    placeArcs := net.placeArcs.modify arc.place fun index => index ++ [id] }

/-- An arc between existing nodes: the one that is there already, or a new one. -/
def addArc (net : Net) (place : PlaceId) (transition : TransitionId) (kind : ArcKind) :
    Except NetError (ArcId × Net) :=
  if net.places.length ≤ place then .error (.danglingPlace place)
  else if net.transitions.length ≤ transition then .error (.danglingTransition transition)
  else
    match net.findArc? place transition kind with
    | some existing => .ok (existing, net)
    | none => .ok (net.arcs.length, net.appendArc { place, transition, kind })

end EventNet.Net
