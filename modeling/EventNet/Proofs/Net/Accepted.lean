import EventNet.Proofs.Firing.Precedence
import EventNet.Proofs.Net.Documents
import EventNet.Proofs.Net.Snapshot

/-!
# What acceptance assures

A net is accepted if its indices agree with its tables, whether it has been built or comes
out of a document. This leaves open what holds of nets that are built (`Net.WellBuilt`): that
places have distinct names and arcs are listed once, and that the members of a bus and the
buses themselves are in the order of the transitions. A document may break all of it and be
accepted, although the data model states it of every net. Then a snapshot can lose a place, the
enabled instances of a bus can be listed in descending order, and the later of two instances
can take a token from the earlier (`jumbled_accepted`).

What acceptance assures of every net is collected in `Net.Assured`
(`assured_of_accepted`). The indices list the right arcs, a bus lists all transitions of its
name once, and every name has its entry in a snapshot. Where the names of the places are
distinct or a bus is in ascending order, no place is lost and the earlier instance takes the
token.
-/

set_option autoImplicit false

namespace EventNet

open EventNet.Random (WordSource)

/-! ## A net in disorder -/

/-- Two places with one name, an arc that the table has twice and one that an index has
twice, a bus without members, and buses and members that are out of order. -/
def Net.jumbled : Net where
  places := [{ name := "p", factual := true }, { name := "p" }]
  transitions := [{ name := "t", arcs := [0, 0] }, { name := "t", arcs := [1, 2] },
    { name := "s", arcs := [3] }]
  arcs := [⟨0, 0, .consume⟩, ⟨0, 1, .consume⟩, ⟨0, 1, .consume⟩, ⟨1, 2, .consume⟩]
  placeArcs := [[0, 1, 2], [3]]
  buses := ⟨[("u", []), ("s", [2]), ("t", [1, 0])], by decide⟩

theorem Net.jumbled_validate : jumbled.validate = .ok () := by decide +kernel

/-- **A net can be accepted in complete disorder.** Of its two places a snapshot shows one, and
not the marked one. Both instances of the bus are enabled, the later one is listed first, and it
is the one that is accepted. -/
theorem jumbled_accepted :
    Net.jumbled.validate = .ok () ∧
      ¬(Net.jumbled.places.map Place.name).Nodup ∧
      ¬Net.jumbled.arcs.Nodup ∧
      (∃ entry ∈ Net.jumbled.transitions, ¬entry.arcs.Nodup) ∧
      (∃ bus ∈ Net.jumbled.buses.entries, bus.2 = []) ∧
      (∃ bus ∈ Net.jumbled.buses.entries, ¬bus.2.Pairwise (· < ·)) ∧
      (Net.jumbled.labels.filter fun label => !(Net.jumbled.bus label).isEmpty) ≠
        (Net.jumbled.transitions.map Transition.name).eraseDups ∧
      (Marking.initial Net.jumbled).markedPlaces = [0] ∧
      ((Marking.initial Net.jumbled).snapshot Net.jumbled).entries = [("p", false)] ∧
      (Engine.ofNet Net.jumbled).enabledInstances (.initial Net.jumbled) .empty = [0, 1] ∧
      (Engine.ofNet Net.jumbled).enabledBuses (.initial Net.jumbled) .empty =
        [{ label := "t", instances := [1, 0] }] ∧
      ∃ arbitration after rest,
        (Engine.ofNet Net.jumbled).step? none { marking := .initial Net.jumbled, fired := .empty }
            (Random.Cycle.ofWords [0]) = some (arbitration, after, rest) ∧
          arbitration.step = { labels := ["t"], instances := [1] } := by
  have taken : ((Engine.ofNet Net.jumbled).step? none
      { marking := .initial Net.jumbled, fired := .empty } (Random.Cycle.ofWords [0])).isSome =
        true := by
    decide +kernel
  refine ⟨Net.jumbled_validate, by decide, by decide, ?_, ?_, ?_, by decide +kernel,
    by decide +kernel, by decide +kernel, by decide +kernel, by decide +kernel, ?_⟩
  · exact ⟨{ name := "t", arcs := [0, 0] }, by decide, by decide⟩
  · exact ⟨("u", []), by decide, rfl⟩
  · exact ⟨("t", [1, 0]), by decide, by decide⟩
  · exact ⟨_, _, _, (Option.some_get taken).symm, by decide +kernel⟩

/-! ## What holds none the less -/

/-- What is assured of every net that has been accepted. -/
structure Net.Assured (net : Net) : Prop where
  placeIndex_length : net.placeArcs.length = net.places.length
  ends_exist : ∀ arc ∈ net.arcs,
    arc.transition < net.transitions.length ∧ arc.place < net.places.length
  /-- The index of a transition lists the arcs at it and nothing else. -/
  mem_transition_index : ∀ (id : TransitionId) (entry : Transition),
    net.transitions[id]? = some entry → ∀ listed, listed ∈ entry.arcs ↔
      ∃ arc : Arc, net.arcs[listed]? = some arc ∧ arc.transition = id
  /-- The index of a place lists the arcs at it and nothing else. -/
  mem_place_index : ∀ (id : PlaceId) (index : List ArcId), net.placeArcs[id]? = some index →
    ∀ listed, listed ∈ index ↔ ∃ arc : Arc, net.arcs[listed]? = some arc ∧ arc.place = id
  /-- A bus lists the transitions of its name, each of them once. -/
  bus_perm : ∀ bus ∈ net.buses.entries,
    bus.2.Perm ((List.range net.transitions.length).filter fun transition =>
      net.nameOf? transition == some bus.1)
  /-- The names of the transitions are the labels of the buses that have members. -/
  mem_names : ∀ label, label ∈ net.transitions.map Transition.name ↔
    ∃ bus ∈ net.buses.entries, bus.1 = label ∧ bus.2 ≠ []
  /-- The names of the places are the keys of a snapshot. -/
  mem_keys_snapshot : ∀ (marking : Marking) (name : String),
    name ∈ (marking.snapshot net).keys ↔ name ∈ net.places.map Place.name
  /-- If the places have distinct names, a snapshot shows every place. -/
  entries_snapshot : (net.places.map Place.name).Nodup → ∀ marking : Marking,
    (marking.snapshot net).entries =
      net.places.zipIdx.map fun (place, id) => (place.name, marking.isMarked id)
  /-- An enabled instance is passed over for one that it competes with. -/
  givesWay : ∀ {σ : Type} [WordSource σ] (preferred : Option String) (state after : RunState)
    (source rest : σ) (arbitration : Arbitration),
      (Engine.ofNet net).step? preferred state source = some (arbitration, after, rest) →
        ∀ transition, net.Enabled state.marking state.fired.toSet transition →
          transition ∉ arbitration.step.instances →
            ∃ accepted ∈ arbitration.step.instances, net.GivesWay transition accepted

namespace Net.Consistent

variable {net : Net} (consistent : net.Consistent)
include consistent

theorem mem_transition_index {id : TransitionId} {entry : Transition}
    (found : net.transitions[id]? = some entry) {listed : ArcId} :
    listed ∈ entry.arcs ↔ ∃ arc : Arc, net.arcs[listed]? = some arc ∧ arc.transition = id := by
  constructor
  · exact consistent.transition_lists id entry found listed
  · rintro ⟨arc, atListed, rfl⟩
    obtain ⟨⟨other, foundOther, inIndex⟩, -⟩ := consistent.arc_listed listed arc atListed
    rw [found] at foundOther
    cases foundOther
    exact inIndex

theorem mem_place_index {id : PlaceId} {index : List ArcId}
    (found : net.placeArcs[id]? = some index) {listed : ArcId} :
    listed ∈ index ↔ ∃ arc : Arc, net.arcs[listed]? = some arc ∧ arc.place = id := by
  constructor
  · exact consistent.place_lists id index found listed
  · rintro ⟨arc, atListed, rfl⟩
    obtain ⟨-, other, foundOther, inIndex⟩ := consistent.arc_listed listed arc atListed
    rw [found] at foundOther
    cases foundOther
    exact inIndex

/-- The buses with members are those of the names. -/
theorem mem_names {label : String} : label ∈ net.transitions.map Transition.name ↔
    ∃ bus ∈ net.buses.entries, bus.1 = label ∧ bus.2 ≠ [] := by
  constructor
  · intro listed
    obtain ⟨transition, found⟩ := List.getElem?_of_mem listed
    have named : net.nameOf? transition = some label := by
      rw [nameOf?, ← List.getElem?_map]
      exact found
    obtain ⟨bus, inBuses, label, inBus⟩ := consistent.exists_bus named
    exact ⟨bus, inBuses, label, List.ne_nil_of_mem inBus⟩
  · rintro ⟨bus, inBuses, rfl, nonempty⟩
    obtain ⟨transition, inBus⟩ := List.exists_mem_of_ne_nil _ nonempty
    have named := consistent.bus_named bus inBuses transition inBus
    rw [nameOf?, ← List.getElem?_map] at named
    exact List.mem_of_getElem? named

/-- **All that acceptance assures.** -/
theorem assured : net.Assured where
  placeIndex_length := consistent.placeIndex_length
  ends_exist := by
    intro arc listed
    have joined : net.HasArc arc.kind arc.transition arc.place := listed
    exact consistent.lt_of_hasArc joined
  mem_transition_index := by
    intro id entry found listed
    exact consistent.mem_transition_index found
  mem_place_index := by
    intro id index found listed
    exact consistent.mem_place_index found
  bus_perm := by
    intro bus listed
    exact consistent.bus_perm listed
  mem_names := by
    intro label
    exact consistent.mem_names
  mem_keys_snapshot := by
    intro marking name
    rw [Marking.keys_snapshot, List.mem_eraseDups]
  entries_snapshot := by
    intro distinct marking
    exact marking.entries_snapshot distinct
  givesWay := by
    intro σ _ preferred state after source rest arbitration taken transition enabled passed
    exact consistent.givesWay taken enabled passed

end Net.Consistent

/-- **What is assured of every net that the check accepts, and so of every net that comes out
of a document**: agreement of the indices with the tables, and complete buses. -/
theorem assured_of_accepted {net : Net}
    (accepted : net.validate = .ok () ∨ (∃ text, Net.ofJson text = .ok net) ∨
      ∃ text, Net.ofRon text = .ok net) : net.Assured := by
  obtain valid | ⟨text, loaded⟩ | ⟨text, loaded⟩ := accepted
  · exact (Net.validate_eq_ok_iff.1 valid).assured
  · exact (Net.consistent_of_ofJson loaded).assured
  · exact (Net.consistent_of_ofRon loaded).assured

/-- This much is assured of the net in disorder. -/
theorem jumbled_assured : Net.jumbled.validate = .ok () ∧ Net.jumbled.Assured :=
  ⟨Net.jumbled_validate, assured_of_accepted (.inl Net.jumbled_validate)⟩

end EventNet
