import EventNet.Proofs.Net.Consistent

/-!
# What a reported violation means

The check of a net stops at the first breach it finds and reports it. For every report it
is stated here what the net must be like for the report to be true (`NetError.Holds`): the
two lengths are those of the net and differ, the node does not exist and an arc ends there,
the arc is one that an index lacks or that an index lists wrongly, the bus of the label
lists something foreign or twice, or a transition of that name is in no bus.

Every report is true (`Net.holds_of_violation?`), and no report is true of a consistent net
(`NetError.Holds.not_consistent`). The phases of the check are taken one by one. In the
last one a transition may have been listed before: if it carries the name of its bus, it
has been listed by this very bus, since the labels of the buses are different
(`Net.misfiled_of_listedInBuses`).
-/

set_option autoImplicit false

namespace EventNet

/-! ## True reports -/

/-- The bus of a label lists something that is no transition of this name, or lists a
transition twice. -/
def Net.Misfiled (net : Net) (label : String) (members : List TransitionId) : Prop :=
  (∃ transition ∈ members, net.nameOf? transition ≠ some label) ∨ ¬members.Nodup

/-- What a report says of a net. -/
def NetError.Holds (net : Net) : NetError → Prop
  | .placeIndexLength expected found =>
    expected = net.places.length ∧ found = net.placeArcs.length ∧ found ≠ expected
  | .danglingTransition transition =>
    net.transitions.length ≤ transition ∧ ∃ arc ∈ net.arcs, arc.transition = transition
  | .danglingPlace place => net.places.length ≤ place ∧ ∃ arc ∈ net.arcs, arc.place = place
  | .unindexedArc id =>
    ∃ (arc : Arc) (entry : Transition) (index : List ArcId), net.arcs[id]? = some arc ∧
      net.transitions[arc.transition]? = some entry ∧ net.placeArcs[arc.place]? = some index ∧
        (id ∉ entry.arcs ∨ id ∉ index)
  | .misindexedArc id =>
    (∃ (transition : TransitionId) (entry : Transition),
      net.transitions[transition]? = some entry ∧ id ∈ entry.arcs ∧
        ¬∃ arc : Arc, net.arcs[id]? = some arc ∧ arc.transition = transition) ∨
      ∃ (place : PlaceId) (index : List ArcId),
        net.placeArcs[place]? = some index ∧ id ∈ index ∧
          ¬∃ arc : Arc, net.arcs[id]? = some arc ∧ arc.place = place
  | .inconsistentBus label =>
    (∃ members, (label, members) ∈ net.buses.entries ∧ net.Misfiled label members) ∨
      ∃ transition, net.nameOf? transition = some label ∧ transition ∉ net.busMembers

/-- **No report is true of a consistent net.** -/
theorem NetError.Holds.not_consistent {net : Net} {error : NetError} (holds : error.Holds net) :
    ¬net.Consistent := by
  intro consistent
  cases error with
  | placeIndexLength expected found =>
    obtain ⟨rfl, rfl, different⟩ := holds
    exact different consistent.placeIndex_length
  | danglingTransition transition =>
    obtain ⟨outside, ⟨place, _, kind⟩, listed, rfl⟩ := holds
    exact Nat.not_lt.2 outside (consistent.lt_of_hasArc listed).1
  | danglingPlace place =>
    obtain ⟨outside, ⟨_, transition, kind⟩, listed, rfl⟩ := holds
    exact Nat.not_lt.2 outside (consistent.lt_of_hasArc listed).2
  | unindexedArc id =>
    obtain ⟨arc, entry, index, atId, atTransition, atPlace, missing⟩ := holds
    obtain ⟨⟨sameEntry, foundEntry, inEntry⟩, sameIndex, foundIndex, inIndex⟩ :=
      consistent.arc_listed id arc atId
    cases atTransition.symm.trans foundEntry
    cases atPlace.symm.trans foundIndex
    exact missing.elim (· inEntry) (· inIndex)
  | misindexedArc id =>
    obtain ⟨transition, entry, found, listed, foreign⟩ | ⟨place, index, found, listed, foreign⟩ :=
      holds
    · exact foreign (consistent.transition_lists transition entry found id listed)
    · exact foreign (consistent.place_lists place index found id listed)
  | inconsistentBus label =>
    have nodup : net.busMembers.Nodup := consistent.buses_complete.nodup_iff.2 List.nodup_range
    rcases holds with
      ⟨members, inBuses, ⟨transition, listed, foreign⟩ | twice⟩ | ⟨transition, named, missing⟩
    · exact foreign (consistent.bus_named _ inBuses transition listed)
    · exact twice ((List.nodup_flatMap.1 nodup).1 _ inBuses)
    · have inside := Net.lt_of_nameOf? named
      exact missing (consistent.buses_complete.mem_iff.2 (List.mem_range.2 inside))

/-! ## The phases of the check -/

namespace Net

variable {net : Net} {error : NetError}

/-- A place has an index if there are as many indices as places. -/
theorem holds_of_arcViolation? {id : ArcId} {arc : Arc}
    (length : net.placeArcs.length = net.places.length) (atId : net.arcs[id]? = some arc)
    (violated : net.arcViolation? id arc = some error) : error.Holds net := by
  have listed : arc ∈ net.arcs := List.mem_of_getElem? atId
  unfold arcViolation? at violated
  cases atTransition : net.transitions[arc.transition]? with
  | none =>
    simp only [atTransition, Option.some.injEq] at violated
    subst violated
    exact ⟨List.getElem?_eq_none_iff.1 atTransition, arc, listed, rfl⟩
  | some entry =>
    cases atPlace : net.placeArcs[arc.place]? with
    | none =>
      simp only [atTransition, atPlace, Option.some.injEq] at violated
      subst violated
      exact ⟨length ▸ List.getElem?_eq_none_iff.1 atPlace, arc, listed, rfl⟩
    | some index =>
      simp only [atTransition, atPlace] at violated
      split at violated
      · simp at violated
      · rename_i missing
        cases violated
        refine ⟨arc, entry, index, atId, atTransition, atPlace, ?_⟩
        simpa [Decidable.imp_iff_not_or] using missing

/-- The reported entry of an index is no arc with the wanted property. -/
theorem indexViolation?_eq_some {belongs : Arc → Bool} {index : List ArcId}
    (violated : net.indexViolation? belongs index = some error) :
    ∃ id ∈ index, error = .misindexedArc id ∧
      ¬∃ arc : Arc, net.arcs[id]? = some arc ∧ belongs arc = true := by
  obtain ⟨id, found, rfl⟩ := Option.map_eq_some_iff.1 violated
  refine ⟨id, List.mem_of_find?_eq_some found, rfl, ?_⟩
  have refused := List.find?_some found
  rwa [Bool.not_eq_true', ← Bool.not_eq_true, Option.any_eq_true] at refused

/-- Going through one bus: the search goes on behind it if the bus lists fresh transitions
of its name, each once, and otherwise it reports the bus. -/
theorem listedInBuses_cons (net : Net) (label : String) (members : List TransitionId)
    (buses : List (String × List TransitionId)) (seen : List TransitionId) :
    (¬net.Misfiled label members ∧ (∀ transition ∈ members, transition ∉ seen) ∧
        net.listedInBuses ((label, members) :: buses) seen =
          net.listedInBuses buses (members.reverse ++ seen)) ∨
      (net.Misfiled label members ∨ ∃ transition ∈ members, transition ∈ seen) ∧
        net.listedInBuses ((label, members) :: buses) seen = .error (.inconsistentBus label) := by
  induction members generalizing seen with
  | nil => exact .inl ⟨by simp [Misfiled], by simp, by rw [listedInBuses]; rfl⟩
  | cons member members ih =>
    rw [listedInBuses]
    split
    · rename_i fresh
      rw [Bool.and_eq_true, isNamed_iff] at fresh
      obtain ⟨named, unseen⟩ := fresh
      rw [Bool.not_eq_true', List.contains_eq_mem, decide_eq_false_iff_not] at unseen
      unfold Misfiled at ih ⊢
      rcases ih (member :: seen) with ⟨filed, others, goesOn⟩ | ⟨breach, stops⟩
      · refine .inl ⟨?_, ?_, ?_⟩
        · grind
        · grind
        · rw [goesOn, List.reverse_cons, List.append_assoc, List.singleton_append]
      · exact .inr ⟨by grind, stops⟩
    · rename_i stale
      rw [Bool.and_eq_true, isNamed_iff] at stale
      refine .inr ⟨?_, rfl⟩
      by_cases named : net.nameOf? member = some label
      · exact .inr ⟨member, List.mem_cons_self, by simpa [named] using stale⟩
      · exact .inl (.inl ⟨member, List.mem_cons_self, named⟩)

/-- A reported bus lists something foreign or twice. What has been seen in buses of other
names cannot be the reason. -/
theorem misfiled_of_listedInBuses {buses : List (String × List TransitionId)}
    {seen : List TransitionId} (labels : (buses.map Prod.fst).Nodup)
    (elsewhere : ∀ transition ∈ seen, ∀ bus ∈ buses, net.nameOf? transition ≠ some bus.1)
    (violated : net.listedInBuses buses seen = .error error) :
    ∃ bus ∈ buses, error = .inconsistentBus bus.1 ∧ net.Misfiled bus.1 bus.2 := by
  induction buses generalizing seen with
  | nil => simp [listedInBuses] at violated
  | cons bus buses ih =>
    obtain ⟨label, members⟩ := bus
    obtain ⟨fresh, others⟩ := List.nodup_cons.1 labels
    rcases net.listedInBuses_cons label members buses seen with
      ⟨filed, -, goesOn⟩ | ⟨breach, stops⟩
    · have named : ∀ transition ∈ members, net.nameOf? transition = some label := by
        intro transition listed
        by_contra foreign
        exact filed (.inl ⟨transition, listed, foreign⟩)
      -- what has been seen now carries the name of this bus, or of an earlier one
      have elsewhereStill : ∀ transition ∈ members.reverse ++ seen, ∀ bus ∈ buses,
          net.nameOf? transition ≠ some bus.1 := by
        intro transition known bus later same
        rcases List.mem_append.1 known with here | before
        · rw [named transition (List.mem_reverse.1 here), Option.some_inj] at same
          exact fresh (List.mem_map.2 ⟨bus, later, same.symm⟩)
        · exact elsewhere transition before bus (List.mem_cons_of_mem _ later) same
      rw [goesOn] at violated
      obtain ⟨other, later, reported⟩ := ih others elsewhereStill violated
      exact ⟨other, List.mem_cons_of_mem _ later, reported⟩
    · rw [stops, Except.error.injEq] at violated
      refine ⟨_, List.mem_cons_self, violated.symm, ?_⟩
      rcases breach with misfiled | ⟨transition, listed, known⟩
      · exact misfiled
      · exact .inl ⟨transition, listed, elsewhere transition known _ List.mem_cons_self⟩

theorem holds_of_busViolation? (violated : net.busViolation? = some error) : error.Holds net := by
  unfold busViolation? at violated
  cases search : net.listedInBuses net.buses.entries [] with
  | error violation =>
    simp only [search, Option.some.injEq] at violated
    subst violated
    obtain ⟨⟨label, members⟩, inBuses, rfl, misfiled⟩ :=
      misfiled_of_listedInBuses net.buses.nodup (by simp) search
    exact .inl ⟨members, inBuses, misfiled⟩
  | ok listed =>
    obtain ⟨-, -, -, rfl⟩ := listedInBuses_eq_ok_iff.1 search
    simp only [search, Option.map_eq_some_iff] at violated
    obtain ⟨⟨entry, transition⟩, found, rfl⟩ := violated
    have atId := List.mem_zipIdx_iff_getElem?.1 (List.mem_of_find?_eq_some found)
    have missing := List.find?_some found
    exact .inr ⟨transition, by simpa [nameOf?] using ⟨entry, atId, rfl⟩,
      by simpa [busMembers] using missing⟩

/-- **Whatever the check reports is true of the net.** -/
theorem holds_of_violation? (violated : net.violation? = some error) : error.Holds net := by
  unfold violation? at violated
  split at violated
  · rename_i different
    cases violated
    exact ⟨rfl, rfl, bne_iff_ne.1 different⟩
  · rename_i same
    have length : net.placeArcs.length = net.places.length := by simpa using same
    simp only [Option.orElse_eq_orElse, Option.orElse_eq_or, Option.or_eq_some_iff] at violated
    rcases violated with inArcs | ⟨-, inTransitions | ⟨-, inPlaces | ⟨-, inBuses⟩⟩⟩
    · obtain ⟨⟨arc, id⟩, listed, found⟩ := List.exists_of_findSome?_eq_some inArcs
      exact holds_of_arcViolation? length (List.mem_zipIdx_iff_getElem?.1 listed) found
    · obtain ⟨⟨entry, transition⟩, listed, found⟩ := List.exists_of_findSome?_eq_some inTransitions
      obtain ⟨id, inEntry, rfl, foreign⟩ := indexViolation?_eq_some found
      exact .inl ⟨transition, entry, List.mem_zipIdx_iff_getElem?.1 listed, inEntry,
        by simpa using foreign⟩
    · obtain ⟨⟨index, place⟩, listed, found⟩ := List.exists_of_findSome?_eq_some inPlaces
      obtain ⟨id, inIndex, rfl, foreign⟩ := indexViolation?_eq_some found
      exact .inr ⟨place, index, List.mem_zipIdx_iff_getElem?.1 listed, inIndex,
        by simpa using foreign⟩
    · exact holds_of_busViolation? inBuses

end Net

end EventNet
