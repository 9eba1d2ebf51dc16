import EventNet.Net.Consistency
import Mathlib.Data.List.Nodup
import Mathlib.Data.List.Range

/-!
# What a consistent net is

`Net.violation?` is a search that stops at the first breach it finds. The conditions it
searches through are stated here one by one, in terms of the tables and indices alone
(`Net.Consistent`), and a net without a violation is exactly a net that meets them
(`Net.violation?_eq_none_iff`).

The conditions are then turned into the two facts that the rest of the theory uses. The
arcs that the index of a transition lists are the arcs of the arc table at that
transition (`Net.Consistent.mem_arcsOf`, for places `mem_arcsAt`), and the buses together
list every transition once, under its own name (`Net.Consistent.exists_bus`).
-/

set_option autoImplicit false

namespace EventNet.Net

/-- The arc table has an arc of this kind between a transition and a place. -/
def HasArc (net : Net) (kind : ArcKind) (transition : TransitionId) (place : PlaceId) : Prop :=
  ({ place, transition, kind } : Arc) ∈ net.arcs

instance (net : Net) (kind : ArcKind) (transition : TransitionId) (place : PlaceId) :
    Decidable (net.HasArc kind transition place) :=
  inferInstanceAs (Decidable (_ ∈ net.arcs))

/-- The name of a transition, if there is such a transition. -/
def nameOf? (net : Net) (transition : TransitionId) : Option String :=
  net.transitions[transition]?.map Transition.name

theorem lt_of_nameOf? {net : Net} {transition : TransitionId} {name : String}
    (named : net.nameOf? transition = some name) : transition < net.transitions.length := by
  obtain ⟨entry, found, _⟩ := Option.map_eq_some_iff.1 named
  exact (List.getElem?_eq_some_iff.1 found).1

/-- The transitions that the buses list, bus after bus. -/
def busMembers (net : Net) : List TransitionId := net.buses.entries.flatMap Prod.snd

/-- The indices of a net agree with its tables. -/
structure Consistent (net : Net) : Prop where
  /-- There is an arc index for every place and none beside these. -/
  placeIndex_length : net.placeArcs.length = net.places.length
  /-- An arc joins an existing transition, which lists it, and an existing place, which
  lists it as well. -/
  arc_listed : ∀ (id : ArcId) (arc : Arc), net.arcs[id]? = some arc →
    (∃ entry : Transition, net.transitions[arc.transition]? = some entry ∧ id ∈ entry.arcs) ∧
      ∃ index : List ArcId, net.placeArcs[arc.place]? = some index ∧ id ∈ index
  /-- What a transition lists are arcs at this transition. -/
  transition_lists : ∀ (id : TransitionId) (entry : Transition),
    net.transitions[id]? = some entry →
      ∀ listed ∈ entry.arcs, ∃ arc : Arc, net.arcs[listed]? = some arc ∧ arc.transition = id
  /-- What a place lists are arcs at this place. -/
  place_lists : ∀ (id : PlaceId) (index : List ArcId), net.placeArcs[id]? = some index →
    ∀ listed ∈ index, ∃ arc : Arc, net.arcs[listed]? = some arc ∧ arc.place = id
  /-- The members of a bus carry its label. -/
  bus_named : ∀ bus ∈ net.buses.entries, ∀ transition ∈ bus.2,
    net.nameOf? transition = some bus.1
  /-- The buses together list every transition once. -/
  buses_complete : net.busMembers.Perm (List.range net.transitions.length)

/-! ## The phases of the search -/

theorem arcViolation?_eq_none_iff {net : Net} {id : ArcId} {arc : Arc} :
    net.arcViolation? id arc = none ↔
      (∃ entry : Transition, net.transitions[arc.transition]? = some entry ∧ id ∈ entry.arcs) ∧
        ∃ index : List ArcId, net.placeArcs[arc.place]? = some index ∧ id ∈ index := by
  unfold arcViolation?
  cases net.transitions[arc.transition]? with
  | none => simp
  | some entry =>
    cases net.placeArcs[arc.place]? with
    | none => simp
    | some index => simp

theorem indexViolation?_eq_none_iff {net : Net} {belongs : Arc → Bool} {index : List ArcId} :
    net.indexViolation? belongs index = none ↔
      ∀ listed ∈ index, ∃ arc : Arc, net.arcs[listed]? = some arc ∧ belongs arc = true := by
  simp only [indexViolation?, Option.map_eq_none_iff, List.find?_eq_none, Bool.not_eq_true,
    Bool.not_eq_false', Option.any_eq_true]

theorem isNamed_iff {net : Net} {transition : TransitionId} {label : String} :
    (net.transitions[transition]?.any fun entry => entry.name == label) = true ↔
      net.nameOf? transition = some label := by
  cases found : net.transitions[transition]? with
  | none => simp [nameOf?, found]
  | some entry => simp [nameOf?, found]

/-- The search through the buses succeeds when all they list is named after its bus and
has not been listed before, and what it collects is what they list. -/
theorem listedInBuses_eq_ok_iff {net : Net} {buses : List (String × List TransitionId)}
    {seen listed : List TransitionId} :
    net.listedInBuses buses seen = .ok listed ↔
      (∀ bus ∈ buses, ∀ transition ∈ bus.2, net.nameOf? transition = some bus.1) ∧
        (buses.flatMap Prod.snd).Nodup ∧
          (∀ transition ∈ buses.flatMap Prod.snd, transition ∉ seen) ∧
            (buses.flatMap Prod.snd).reverse ++ seen = listed := by
  fun_induction listedInBuses net buses seen with
  | case1 seen => simp
  | case2 seen label buses ih => simp [ih]
  | case3 label member members buses seen fresh ih =>
    obtain ⟨named, unseen⟩ := Bool.and_eq_true_iff.1 fresh
    rw [isNamed_iff] at named
    -- the member is moved from the buses still to be searched to what has been seen
    simp only [ih, List.flatMap_cons, List.mem_cons, List.cons_append, List.nodup_cons,
      List.reverse_cons, List.append_assoc, List.nil_append, forall_eq_or_imp]
    grind
  | case4 label member members buses seen stale =>
    rw [Bool.and_eq_true_iff, isNamed_iff] at stale
    simp only [reduceCtorEq, false_iff, List.flatMap_cons, List.cons_append, List.nodup_cons,
      List.mem_cons, forall_eq_or_imp]
    grind

theorem unlisted?_eq_none_iff {net : Net} {listed : List TransitionId} :
    (net.transitions.zipIdx.find? fun entry => !listed.contains entry.2) = none ↔
      ∀ transition < net.transitions.length, transition ∈ listed := by
  simp only [List.find?_eq_none, List.mem_zipIdx_iff_getElem?, Bool.not_eq_true,
    Bool.not_eq_false', List.contains_iff_mem, Prod.forall]
  constructor
  · intro all transition inside
    exact all _ transition (List.getElem?_eq_getElem inside)
  · intro all entry transition found
    exact all transition (List.getElem?_eq_some_iff.1 found).1

theorem busViolation?_eq_none_iff {net : Net} :
    net.busViolation? = none ↔
      (∀ bus ∈ net.buses.entries, ∀ transition ∈ bus.2, net.nameOf? transition = some bus.1) ∧
        net.busMembers.Perm (List.range net.transitions.length) := by
  unfold busViolation?
  constructor
  · intro none
    cases search : net.listedInBuses net.buses.entries [] with
    | error violation => simp [search] at none
    | ok listed =>
      obtain ⟨named, nodup, -, rfl⟩ := listedInBuses_eq_ok_iff.1 search
      simp only [search, Option.map_eq_none_iff, unlisted?_eq_none_iff] at none
      refine ⟨named, (List.perm_ext_iff_of_nodup nodup List.nodup_range).2 fun transition => ?_⟩
      rw [List.mem_range]
      constructor
      · intro member
        obtain ⟨bus, inBuses, inBus⟩ := List.mem_flatMap.1 member
        exact lt_of_nameOf? (named bus inBuses transition inBus)
      · intro inside
        simpa using none transition inside
  · rintro ⟨named, complete⟩
    have search : net.listedInBuses net.buses.entries [] = .ok net.busMembers.reverse :=
      listedInBuses_eq_ok_iff.2
        ⟨named, complete.nodup_iff.2 List.nodup_range, by simp, by simp [busMembers]⟩
    simp only [search, Option.map_eq_none_iff, unlisted?_eq_none_iff, List.mem_reverse]
    intro transition inside
    exact complete.mem_iff.2 (List.mem_range.2 inside)

/-- **A net without a violation is a consistent net.** -/
theorem violation?_eq_none_iff {net : Net} : net.violation? = none ↔ net.Consistent := by
  unfold violation?
  by_cases length : net.placeArcs.length = net.places.length
  · simp only [length, bne_self_eq_false, Bool.false_eq_true, if_false, Option.orElse_eq_orElse,
      Option.orElse_eq_or, Option.or_eq_none_iff, List.findSome?_eq_none_iff,
      List.mem_zipIdx_iff_getElem?, Prod.forall, arcViolation?_eq_none_iff,
      indexViolation?_eq_none_iff, busViolation?_eq_none_iff, beq_iff_eq]
    constructor
    · rintro ⟨arcs, transitions, places, named, complete⟩
      exact ⟨length, fun id arc => arcs arc id, fun id entry => transitions entry id,
        fun id index => places index id, fun bus => named bus.1 bus.2, complete⟩
    · intro consistent
      exact ⟨fun arc id => consistent.arc_listed id arc,
        fun entry id => consistent.transition_lists id entry,
        fun index id => consistent.place_lists id index,
        fun label members => consistent.bus_named (label, members), consistent.buses_complete⟩
  · simp only [bne_iff_ne, ne_eq, length, not_false_eq_true, if_true, reduceCtorEq, false_iff]
    exact fun consistent => length consistent.placeIndex_length

theorem validate_eq_ok_iff {net : Net} : net.validate = .ok () ↔ net.Consistent := by
  rw [← violation?_eq_none_iff, validate]
  cases net.violation? <;> simp

/-! ## Arcs by transition -/

namespace Consistent

variable {net : Net}

/-- **What a transition lists are exactly the arcs of the table at this transition.** -/
theorem mem_arcsOf (consistent : net.Consistent) {transition : TransitionId} {arc : Arc} :
    arc ∈ net.arcsOf transition ↔ arc ∈ net.arcs ∧ arc.transition = transition := by
  constructor
  · intro listed
    unfold arcsOf at listed
    split at listed
    · simp at listed
    · rename_i entry found
      obtain ⟨id, inIndex, inTable⟩ := List.mem_filterMap.1 listed
      obtain ⟨other, sameId, atTransition⟩ :=
        consistent.transition_lists transition entry found id inIndex
      rw [inTable] at sameId
      cases sameId
      exact ⟨List.mem_of_getElem? inTable, atTransition⟩
  · rintro ⟨inTable, rfl⟩
    obtain ⟨id, atId⟩ := List.getElem?_of_mem inTable
    obtain ⟨⟨entry, found, inIndex⟩, -⟩ := consistent.arc_listed id arc atId
    simp only [arcsOf, found]
    exact List.mem_filterMap.2 ⟨id, inIndex, atId⟩

/-- What a place lists are exactly the arcs of the table at this place. -/
theorem mem_arcsAt (consistent : net.Consistent) {place : PlaceId} {arc : Arc} :
    arc ∈ net.arcsAt place ↔ arc ∈ net.arcs ∧ arc.place = place := by
  constructor
  · intro listed
    unfold arcsAt at listed
    split at listed
    · simp at listed
    · rename_i index found
      obtain ⟨id, inIndex, inTable⟩ := List.mem_filterMap.1 listed
      obtain ⟨other, sameId, atPlace⟩ := consistent.place_lists place index found id inIndex
      rw [inTable] at sameId
      cases sameId
      exact ⟨List.mem_of_getElem? inTable, atPlace⟩
  · rintro ⟨inTable, rfl⟩
    obtain ⟨id, atId⟩ := List.getElem?_of_mem inTable
    obtain ⟨-, index, found, inIndex⟩ := consistent.arc_listed id arc atId
    simp only [arcsAt, found]
    exact List.mem_filterMap.2 ⟨id, inIndex, atId⟩

/-- The ends of an arc exist. -/
theorem lt_of_hasArc (consistent : net.Consistent) {kind : ArcKind} {transition : TransitionId}
    {place : PlaceId} (arc : net.HasArc kind transition place) :
    transition < net.transitions.length ∧ place < net.places.length := by
  obtain ⟨id, atId⟩ := List.getElem?_of_mem arc
  obtain ⟨⟨entry, found, -⟩, index, foundIndex, -⟩ := consistent.arc_listed id _ atId
  rw [← consistent.placeIndex_length]
  exact ⟨(List.getElem?_eq_some_iff.1 found).1, (List.getElem?_eq_some_iff.1 foundIndex).1⟩

/-- A transition is listed by the bus of its name. -/
theorem exists_bus (consistent : net.Consistent) {transition : TransitionId} {name : String}
    (named : net.nameOf? transition = some name) :
    ∃ bus ∈ net.buses.entries, bus.1 = name ∧ transition ∈ bus.2 := by
  have member : transition ∈ net.busMembers :=
    consistent.buses_complete.mem_iff.2 (List.mem_range.2 (lt_of_nameOf? named))
  obtain ⟨bus, inBuses, inBus⟩ := List.mem_flatMap.1 member
  refine ⟨bus, inBuses, ?_, inBus⟩
  exact Option.some.inj ((consistent.bus_named bus inBuses transition inBus).symm.trans named)

end Consistent

/-! ## A net of rivals -/

/-- Two instances of one bus and one of another compete for the token of a place, and a
source gives it another one. -/
def rivals : Net where
  places := [{ name := "p", factual := true }, { name := "q" }]
  transitions := [{ name := "left", arcs := [0, 1] }, { name := "right", arcs := [2] },
    { name := "left", arcs := [3, 4] }, { name := "spring", arcs := [5] }]
  arcs := [⟨0, 0, .consume⟩, ⟨1, 0, .produce⟩, ⟨0, 1, .consume⟩, ⟨0, 2, .consume⟩,
    ⟨1, 2, .produce⟩, ⟨0, 3, .produce⟩]
  placeArcs := [[0, 2, 3, 5], [1, 4]]
  buses := ⟨[("left", [0, 2]), ("right", [1]), ("spring", [3])], by decide⟩

theorem rivals_validate : rivals.validate = .ok () := by decide +kernel

end EventNet.Net
