import EventNet.Net.Basic

/-!
# Consistency of a net

The indices of a net agree with its tables when

* there is an arc index for every place and none beside these;
* every arc joins an existing place and an existing transition, and the indices of
  both list it;
* every entry of the index of a transition or place is an arc at that transition or
  place;
* every transition belongs to exactly one bus, the one with its name, and occurs
  there once, and no bus lists anything else.

`Net.violation?` looks for the first breach of these conditions, in this order.
-/

set_option autoImplicit false

namespace EventNet

/-- A way in which a net contradicts itself. -/
inductive NetError where
  | danglingPlace (place : PlaceId)
  | danglingTransition (transition : TransitionId)
  | unindexedArc (arc : ArcId)
  | misindexedArc (arc : ArcId)
  | placeIndexLength (expected found : Nat)
  | inconsistentBus (label : String)
  deriving DecidableEq

/-- Identifiers in messages about missing nodes: the table and the position from zero. -/
def PlaceId.raw (place : PlaceId) : String := "PlaceId(" ++ toString place ++ ",)"

@[inherit_doc PlaceId.raw]
def TransitionId.raw (transition : TransitionId) : String :=
  "TransitionId(" ++ toString transition ++ ",)"

@[inherit_doc PlaceId.raw]
def ArcId.raw (arc : ArcId) : String := "ArcId(" ++ toString arc ++ ",)"

/-- The wording of an error. -/
def NetError.message : NetError → String
  | danglingPlace place => "arc references unknown place " ++ PlaceId.raw place
  | danglingTransition transition =>
    "arc references unknown transition " ++ TransitionId.raw transition
  | unindexedArc arc =>
    "arc " ++ ArcId.text arc ++ " is missing from the arc index of its place or transition"
  | misindexedArc arc =>
    "arc index entry " ++ ArcId.text arc ++ " refers to a missing or foreign arc"
  | placeIndexLength expected found =>
    "place arc index has " ++ toString found ++ " entries for " ++ toString expected ++ " places"
  | inconsistentBus label => "bus '" ++ label ++ "' does not match the transition labels"

namespace Net

/-- What is wrong with an entry of the arc table. -/
def arcViolation? (net : Net) (id : ArcId) (arc : Arc) : Option NetError :=
  match net.transitions[arc.transition]? with
  | none => some (.danglingTransition arc.transition)
  | some transition =>
    match net.placeArcs[arc.place]? with
    | none => some (.danglingPlace arc.place)
    | some atPlace =>
      if transition.arcs.contains id && atPlace.contains id then none
      else some (.unindexedArc id)

/-- The first entry of an index that is no arc with the wanted property. -/
def indexViolation? (net : Net) (belongs : Arc → Bool) (index : List ArcId) :
    Option NetError :=
  (index.find? fun id => !(net.arcs[id]?.any belongs)).map .misindexedArc

/-- The first bus that lists something else than a transition of its name, or one that
has been listed before; otherwise the transitions listed in all buses. -/
def listedInBuses (net : Net) :
    List (String × List TransitionId) → List TransitionId → Except NetError (List TransitionId)
  | [], seen => .ok seen
  | (_, []) :: buses, seen => net.listedInBuses buses seen
  | (label, member :: members) :: buses, seen =>
    if (net.transitions[member]?.any fun transition => transition.name == label) &&
        !seen.contains member then
      net.listedInBuses ((label, members) :: buses) (member :: seen)
    else .error (.inconsistentBus label)
  termination_by buses => buses.foldr (fun bus count => bus.2.length + 1 + count) 0

/-- What is wrong with the buses. -/
def busViolation? (net : Net) : Option NetError :=
  match net.listedInBuses net.buses.entries [] with
  | .error violation => some violation
  | .ok seen =>
    (net.transitions.zipIdx.find? fun entry => !seen.contains entry.2).map fun entry =>
      .inconsistentBus entry.1.name

/-- The first breach of consistency, if the net has one. -/
def violation? (net : Net) : Option NetError :=
  if net.placeArcs.length != net.places.length then
    some (.placeIndexLength net.places.length net.placeArcs.length)
  else
    (net.arcs.zipIdx.findSome? fun (arc, id) => net.arcViolation? id arc)
    <|> (net.transitions.zipIdx.findSome? fun (transition, id) =>
      net.indexViolation? (fun arc => arc.transition == id) transition.arcs)
    <|> (net.placeArcs.zipIdx.findSome? fun (arcs, id) =>
      net.indexViolation? (fun arc => arc.place == id) arcs)
    <|> net.busViolation?

/-- Accepts the net if it is consistent. -/
def validate (net : Net) : Except NetError Unit :=
  match net.violation? with
  | none => .ok ()
  | some violation => .error violation

end Net

end EventNet
