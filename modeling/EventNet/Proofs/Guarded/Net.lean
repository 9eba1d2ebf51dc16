import EventNet.Net.Diagnosis
import EventNet.Proofs.Guarded.Lists
import EventNet.Proofs.Net.Growth

/-!
# Looking up in the tables of a net

The operations on a net take positions that they find in one table for positions in
another. Where there is nothing at a position, they go on with a default. Here the same
operations are written so that they fail there instead, and in a consistent net they never
do: each gives what the operation gives that cannot fail.

The exports of a net are not among them, since they only go through its tables from front
to back. What they write of an arc are its ends, which exist (`Consistent.ends_inside`).
-/

set_option autoImplicit false

namespace EventNet

/-! ## The operations -/

namespace Guarded

/-- The arcs that an index lists. -/
def arcs (net : Net) (index : List ArcId) : Option (List Arc) :=
  index.mapM fun id => net.arcs[id]?

/-- The arcs that the index of a transition lists. -/
def arcsOf (net : Net) (transition : TransitionId) : Option (List Arc) := do
  let entry ← net.transitions[transition]?
  arcs net entry.arcs

/-- The arcs that the index of a place lists. -/
def arcsAt (net : Net) (place : PlaceId) : Option (List Arc) := do
  let index ← net.placeArcs[place]?
  arcs net index

/-- The search for an arc. A transition that does not exist has none. -/
def findArc? (net : Net) (place : PlaceId) (transition : TransitionId) (kind : ArcKind) :
    Option (Option ArcId) :=
  match net.transitions[transition]? with
  | none => some none
  | some entry => entry.arcs.findM? fun id => do
    let arc ← net.arcs[id]?
    return arc.place == place && arc.kind == kind

/-- Adding an arc. A new one is listed by its transition and its place, which must be
there. -/
def addArc (net : Net) (place : PlaceId) (transition : TransitionId) (kind : ArcKind) :
    Option (Except NetError (ArcId × Net)) :=
  if net.places.length ≤ place then some (.error (.danglingPlace place))
  else if net.transitions.length ≤ transition then some (.error (.danglingTransition transition))
  else do
    match ← findArc? net place transition kind with
    | some existing => return .ok (existing, net)
    | none =>
      let _ ← net.transitions[transition]?
      let _ ← net.placeArcs[place]?
      return .ok (net.arcs.length, net.appendArc { place, transition, kind })

/-- A place with the position of an index without arcs, if it is not marked at the start. -/
def isolated? (net : Net) (place : Place) (id : PlaceId) : Option (Option (PlaceId × String)) := do
  let index ← net.placeArcs[id]?
  return if index.isEmpty && !place.factual then some (id, place.name) else none

/-- A place that is asked for, if it is neither marked at the start nor produced. -/
def neverMarked? (net : Net) (place : Place) (id : PlaceId) :
    Option (Option (PlaceId × String)) := do
  let index ← net.placeArcs[id]?
  let arcs ← arcsAt net id
  let requiredOnly := arcs.any (fun arc => arc.kind.requiresToken) &&
    !arcs.any fun arc => arc.kind == .produce
  return if !index.isEmpty && requiredOnly && !place.factual then some (id, place.name) else none

/-- Looking for nodes without arcs and for places that can never be marked. -/
def diagnose (net : Net) : Option Diagnosis := do
  let isolated ← net.places.zipIdx.mapM fun entry => isolated? net entry.1 entry.2
  let neverMarked ← net.places.zipIdx.mapM fun entry => neverMarked? net entry.1 entry.2
  return {
    isolatedPlaces := isolated.filterMap id
    isolatedTransitions := net.transitions.zipIdx.filterMap fun (transition, id) =>
      if transition.arcs.isEmpty then some (id, transition.name) else none
    neverMarked := neverMarked.filterMap id
    totalPlaces := net.places.length
    totalTransitions := net.transitions.length
    totalBuses := net.buses.size }

end Guarded

/-! ## In a consistent net -/

/-- Arcs that exist are looked up. -/
theorem Guarded.arcs_eq_some {net : Net} {index : List ArcId}
    (listed : ∀ id ∈ index, ∃ arc : Arc, net.arcs[id]? = some arc) :
    Guarded.arcs net index = some (index.filterMap fun id => net.arcs[id]?) := by
  induction index with
  | nil => rfl
  | cons id index ih =>
    obtain ⟨⟨arc, found⟩, others⟩ := List.forall_mem_cons.1 listed
    have rest := ih others
    unfold Guarded.arcs at rest ⊢
    simp [List.mapM_cons, found, rest]

namespace Net.Consistent

variable {net : Net} (consistent : net.Consistent)
include consistent

/-- The ends of an arc exist. -/
theorem ends_inside {arc : Arc} (listed : arc ∈ net.arcs) :
    arc.transition < net.transitions.length ∧ arc.place < net.places.length :=
  consistent.lt_of_hasArc listed

theorem guarded_arcsOf {transition : TransitionId} (inside : transition < net.transitions.length) :
    Guarded.arcsOf net transition = some (net.arcsOf transition) := by
  have found := List.getElem?_eq_getElem inside
  simp only [Guarded.arcsOf, Net.arcsOf, found, Option.bind_eq_bind, Option.bind_some]
  refine Guarded.arcs_eq_some fun id listed => ?_
  obtain ⟨arc, atId, -⟩ := consistent.transition_lists transition _ found id listed
  exact ⟨arc, atId⟩

theorem guarded_arcsAt {place : PlaceId} (inside : place < net.places.length) :
    Guarded.arcsAt net place = some (net.arcsAt place) := by
  have found := List.getElem?_eq_getElem (consistent.placeIndex_length.symm ▸ inside)
  simp only [Guarded.arcsAt, Net.arcsAt, found, Option.bind_eq_bind, Option.bind_some]
  refine Guarded.arcs_eq_some fun id listed => ?_
  obtain ⟨arc, atId, -⟩ := consistent.place_lists place _ found id listed
  exact ⟨arc, atId⟩

/-- The search for an arc looks up existing arcs only, also at a transition that does not
exist. -/
theorem guarded_findArc? (place : PlaceId) (transition : TransitionId) (kind : ArcKind) :
    Guarded.findArc? net place transition kind = some (net.findArc? place transition kind) := by
  unfold Guarded.findArc? Net.findArc?
  cases found : net.transitions[transition]? with
  | none => rfl
  | some entry =>
    simp only [Option.bind_eq_bind, Option.bind_some]
    refine Guarded.findM?_eq_some fun id listed => ?_
    obtain ⟨arc, atId, -⟩ := consistent.transition_lists transition entry found id listed
    simp [atId]

theorem guarded_addArc (place : PlaceId) (transition : TransitionId) (kind : ArcKind) :
    Guarded.addArc net place transition kind = some (net.addArc place transition kind) := by
  unfold Guarded.addArc Net.addArc
  split
  · rfl
  · rename_i inPlaces
    split
    · rfl
    · rename_i inTransitions
      have atTransition := List.getElem?_eq_getElem (Nat.not_le.1 inTransitions)
      have atPlace := List.getElem?_eq_getElem
        (consistent.placeIndex_length.symm ▸ Nat.not_le.1 inPlaces)
      rw [consistent.guarded_findArc?, Option.bind_eq_bind, Option.bind_some]
      cases net.findArc? place transition kind with
      | some existing => rfl
      | none => simp [atTransition, atPlace]

theorem guarded_isolated? (place : Place) {id : PlaceId} (inside : id < net.places.length) :
    Guarded.isolated? net place id =
      some (if net.isolatedPlace id && !place.factual then some (id, place.name) else none) := by
  have found := List.getElem?_eq_getElem (consistent.placeIndex_length.symm ▸ inside)
  simp [Guarded.isolated?, Net.isolatedPlace, found]

theorem guarded_neverMarked? (place : Place) {id : PlaceId} (inside : id < net.places.length) :
    Guarded.neverMarked? net place id =
      some (if !net.isolatedPlace id && net.requiredOnly id && !place.factual then
        some (id, place.name) else none) := by
  have found := List.getElem?_eq_getElem (consistent.placeIndex_length.symm ▸ inside)
  simp [Guarded.neverMarked?, Net.isolatedPlace, Net.requiredOnly, found,
    consistent.guarded_arcsAt inside]

/-- What is diagnosed of a place is diagnosed from its index. -/
theorem guarded_diagnose : Guarded.diagnose net = some net.diagnose := by
  have inside : ∀ entry ∈ net.places.zipIdx, entry.2 < net.places.length := by
    intro entry listed
    exact (List.getElem?_eq_some_iff.1 (List.mem_zipIdx_iff_getElem?.1 listed)).1
  have isolated := Guarded.mapM_eq_some fun (entry : Place × PlaceId) listed =>
    consistent.guarded_isolated? entry.1 (inside entry listed)
  have neverMarked := Guarded.mapM_eq_some fun (entry : Place × PlaceId) listed =>
    consistent.guarded_neverMarked? entry.1 (inside entry listed)
  simp only [Guarded.diagnose, isolated, neverMarked, Option.bind_eq_bind, Option.bind_some,
    Option.pure_def, List.filterMap_map, Net.diagnose]
  rfl

end Net.Consistent

end EventNet
