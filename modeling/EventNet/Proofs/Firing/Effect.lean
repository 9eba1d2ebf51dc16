import EventNet.Proofs.Firing.Step

/-!
# What a step does

An engine clears the places that the accepted instances consume, one after another, and
then marks those that they produce. The outcome is that of one simultaneous update: a
place is marked afterwards if some instance produces a token on it, or if it was marked
and no instance consumes it (`Net.effect`, `Net.Consistent.apply_eq_effect`). The order of
the instances plays no part in it, and neither do repetitions.

A step is summed up as a move (`Net.Move`): a maximal choice, its effect on the marking,
and the sources among the accepted instances added to those that have fired. Runs and
sessions are made of moves, and what they preserve is proved from moves alone.
-/

set_option autoImplicit false

namespace EventNet

open EventNet.Random (WordSource)

/-! ## Marking many places -/

namespace Marking

variable {marking : Marking} {place other : PlaceId} {value : Bool} {places : List PlaceId}

theorem isMarked_set :
    (marking.set place value).isMarked other =
      if other = place ∧ other < marking.marks.length then value else marking.isMarked other := by
  by_cases same : other = place
  · subst same
    by_cases inside : other < marking.marks.length <;>
      simp [set, isMarked, inside]
  · have different : place ≠ other := fun equal => same equal.symm
    simp [set, isMarked, same, List.getElem?_set_ne different]

theorem length_foldl_set :
    (places.foldl (fun marking place => marking.set place value) marking).marks.length =
      marking.marks.length := by
  induction places generalizing marking with
  | nil => rfl
  | cons place places ih =>
    rw [List.foldl_cons, ih]
    exact List.length_set

theorem isMarked_foldl_set :
    (places.foldl (fun marking place => marking.set place value) marking).isMarked other =
      if other ∈ places ∧ other < marking.marks.length then value else marking.isMarked other := by
  induction places generalizing marking with
  | nil => simp
  | cons place places ih =>
    have length : (marking.set place value).marks.length = marking.marks.length :=
      List.length_set
    rw [List.foldl_cons, ih, length, isMarked_set]
    by_cases inside : other < marking.marks.length
    · by_cases here : other = place
      · subst here
        simp [inside]
      · simp [inside, here]
    · simp [inside]

theorem lt_of_isMarked (marked : marking.isMarked place = true) :
    place < marking.marks.length := by
  by_contra outside
  simp [isMarked, List.getElem?_eq_none (Nat.le_of_not_lt outside)] at marked

/-- Markings of the same size that agree on every place are equal. -/
theorem eq_of_isMarked {first second : Marking}
    (length : first.marks.length = second.marks.length)
    (agree : ∀ place, first.isMarked place = true ↔ second.isMarked place = true) :
    first = second := by
  obtain ⟨firstMarks⟩ := first
  obtain ⟨secondMarks⟩ := second
  refine congrArg Marking.mk (List.ext_getElem length fun place inFirst inSecond => ?_)
  have same := Bool.eq_iff_iff.2 (agree place)
  simpa [isMarked, inFirst, inSecond] using same

theorem length_initial (net : Net) : (Marking.initial net).marks.length = net.places.length :=
  List.length_map _

end Marking

/-! ## The effect on the marking -/

namespace Net

/-- The marking after instances have happened: all places that they consume are cleared,
and then all places that they produce are marked. -/
def effect (net : Net) (instances : List TransitionId) (marking : Marking) : Marking where
  marks := (List.range net.places.length).map fun place =>
    decide (∃ transition ∈ instances, net.HasArc .produce transition place) ||
      (marking.isMarked place &&
        !decide (∃ transition ∈ instances, net.HasArc .consume transition place))

theorem length_effect (net : Net) (instances : List TransitionId) (marking : Marking) :
    (net.effect instances marking).marks.length = net.places.length := by
  simp [effect]

/-- Only membership in the list of instances matters. -/
theorem effect_congr {net : Net} {instances others : List TransitionId} (marking : Marking)
    (same : ∀ transition, transition ∈ others ↔ transition ∈ instances) :
    net.effect others marking = net.effect instances marking := by
  simp only [effect, same]

namespace Consistent

variable {net : Net} (consistent : net.Consistent) {marking : Marking}
variable (sized : marking.marks.length = net.places.length)
variable {instances : List TransitionId} {place : PlaceId}
include consistent sized

theorem isMarked_effect :
    (net.effect instances marking).isMarked place = true ↔
      (∃ transition ∈ instances, net.HasArc .produce transition place) ∨
        (marking.isMarked place = true ∧
          ¬∃ transition ∈ instances, net.HasArc .consume transition place) := by
  by_cases inside : place < net.places.length
  · simp [effect, Marking.isMarked, inside]
  · have unmarked : ¬marking.isMarked place = true := fun marked =>
      inside (sized ▸ Marking.lt_of_isMarked marked)
    have unproduced : ¬∃ transition ∈ instances, net.HasArc .produce transition place :=
      fun ⟨_, _, arc⟩ => inside (consistent.lt_of_hasArc arc).2
    have outside : ¬(net.effect instances marking).isMarked place = true := fun marked =>
      inside (length_effect net instances marking ▸ Marking.lt_of_isMarked marked)
    exact iff_of_false outside fun marked => marked.elim unproduced fun kept => unmarked kept.1

theorem isMarked_apply :
    ((Engine.ofNet net).apply instances marking).isMarked place = true ↔
      (∃ transition ∈ instances, net.HasArc .produce transition place) ∨
        (marking.isMarked place = true ∧
          ¬∃ transition ∈ instances, net.HasArc .consume transition place) := by
  have inside : ∀ {kind}, (∃ transition ∈ instances, net.HasArc kind transition place) →
      place < marking.marks.length :=
    fun ⟨_, _, arc⟩ => sized ▸ (consistent.lt_of_hasArc arc).2
  simp only [Engine.apply, Marking.isMarked_foldl_set, Marking.length_foldl_set,
    List.mem_flatMap, consistent.mem_produced, consistent.mem_consumed]
  by_cases produced : ∃ transition ∈ instances, net.HasArc .produce transition place
  · simp [produced, inside produced]
  · by_cases consumed : ∃ transition ∈ instances, net.HasArc .consume transition place
    · simp [produced, consumed, inside consumed]
    · simp [produced, consumed]

omit place in
/-- **Clearing and marking place by place has the effect of one update.** -/
theorem apply_eq_effect :
    (Engine.ofNet net).apply instances marking = net.effect instances marking := by
  refine Marking.eq_of_isMarked ?_ fun place => ?_
  · rw [length_effect, ← sized]
    simp only [Engine.apply, Marking.length_foldl_set]
  · rw [consistent.isMarked_apply sized, consistent.isMarked_effect sized]

end Consistent

end Net

/-! ## The effect on the fired sources -/

namespace FiredSources

theorem mem_toSet_insert {fired : FiredSources} {transition other : TransitionId} :
    other ∈ (fired.insert transition).toSet ↔ other ∈ fired.toSet ∨ other = transition := by
  unfold insert
  split
  · rename_i known
    simp only [toSet, Set.mem_ofPred_eq]
    constructor
    · exact .inl
    · rintro (member | rfl)
      · exact member
      · exact known
  · simp [toSet, or_comm]

theorem mem_toSet_foldl_insert {fired : FiredSources} {transitions : List TransitionId}
    {other : TransitionId} :
    other ∈ (transitions.foldl FiredSources.insert fired).toSet ↔
      other ∈ fired.toSet ∨ other ∈ transitions := by
  induction transitions generalizing fired with
  | nil => simp
  | cons transition transitions ih =>
    rw [List.foldl_cons, ih, mem_toSet_insert, List.mem_cons, or_assoc]

end FiredSources

namespace Net

/-- The accepted sources are added to those that have fired. -/
theorem Consistent.mem_recordSources {net : Net} (consistent : net.Consistent)
    {instances : List TransitionId} {fired : FiredSources} {transition : TransitionId} :
    transition ∈ ((Engine.ofNet net).recordSources instances fired).toSet ↔
      transition ∈ fired.toSet ∨ transition ∈ instances ∧ net.IsSource transition := by
  rw [Engine.recordSources, FiredSources.mem_toSet_foldl_insert, List.mem_filter,
    consistent.isSource_iff]

/-! ## Moves -/

/-- From one state to the next by a step. -/
structure Move (net : Net) (before : RunState) (step : Step) (after : RunState) : Prop where
  choice : net.MaximalStep before.marking before.fired.toSet step
  marking_eq : after.marking = net.effect step.instances before.marking
  mem_fired : ∀ transition, transition ∈ after.fired.toSet ↔
    transition ∈ before.fired.toSet ∨ transition ∈ step.instances ∧ net.IsSource transition

theorem Move.sized {net : Net} {before after : RunState} {step : Step}
    (move : net.Move before step after) : after.marking.marks.length = net.places.length := by
  rw [move.marking_eq, length_effect]

section OfStep

variable {σ : Type} [WordSource σ] {net : Net} (consistent : net.Consistent)
variable {preferred : Option String} {state after : RunState} {source rest : σ}
variable {arbitration : Arbitration}
include consistent

theorem Consistent.mem_fired_of_step?
    (taken : (Engine.ofNet net).step? preferred state source = some (arbitration, after, rest))
    (transition : TransitionId) :
    transition ∈ after.fired.toSet ↔ transition ∈ state.fired.toSet ∨
      transition ∈ arbitration.step.instances ∧ net.IsSource transition := by
  obtain ⟨-, -, -, -, rfl⟩ := Engine.exists_order_of_step? taken
  exact consistent.mem_recordSources

/-- **Every step is a move.** -/
theorem Consistent.move_of_step? (sized : state.marking.marks.length = net.places.length)
    (taken : (Engine.ofNet net).step? preferred state source = some (arbitration, after, rest)) :
    net.Move state arbitration.step after := by
  refine ⟨consistent.choice_of_step? taken, ?_, consistent.mem_fired_of_step? taken⟩
  obtain ⟨-, -, -, -, rfl⟩ := Engine.exists_order_of_step? taken
  exact consistent.apply_eq_effect sized

end OfStep

/-! ## Steps as simultaneous updates -/

/-- The state after instances have happened at one instant. -/
structure SimultaneousUpdate (net : Net) (before : RunState) (instances : List TransitionId)
    (after : RunState) : Prop where
  marked_iff : ∀ place, after.marking.isMarked place = true ↔
    (∃ transition ∈ instances, net.HasArc .produce transition place) ∨
      (before.marking.isMarked place = true ∧
        ¬∃ transition ∈ instances, net.HasArc .consume transition place)
  /-- A place that is neither consumed nor produced keeps its value. -/
  isMarked_unchanged : ∀ place,
    (∀ transition ∈ instances,
      ¬net.HasArc .consume transition place ∧ ¬net.HasArc .produce transition place) →
        after.marking.isMarked place = before.marking.isMarked place
  /-- A produced place is marked, also if the same or another instance consumes it. -/
  isMarked_produced : ∀ place, ∀ transition ∈ instances, net.HasArc .produce transition place →
    after.marking.isMarked place = true
  marks_length : after.marking.marks.length = net.places.length
  mem_fired : ∀ transition, transition ∈ after.fired.toSet ↔
    transition ∈ before.fired.toSet ∨ transition ∈ instances ∧ net.IsSource transition

theorem Move.simultaneousUpdate {net : Net} (consistent : net.Consistent)
    {before after : RunState} {step : Step}
    (sized : before.marking.marks.length = net.places.length)
    (move : net.Move before step after) :
    net.SimultaneousUpdate before step.instances after := by
  have marked_iff : ∀ place, after.marking.isMarked place = true ↔
      (∃ transition ∈ step.instances, net.HasArc .produce transition place) ∨
        (before.marking.isMarked place = true ∧
          ¬∃ transition ∈ step.instances, net.HasArc .consume transition place) := by
    rw [move.marking_eq]
    exact fun place => consistent.isMarked_effect sized
  refine ⟨marked_iff, ?_, ?_, move.sized, move.mem_fired⟩
  · intro place untouched
    rw [Bool.eq_iff_iff, marked_iff]
    constructor
    · rintro (⟨transition, member, arc⟩ | ⟨marked, -⟩)
      · exact absurd arc (untouched transition member).2
      · exact marked
    · exact fun marked => .inr ⟨marked, fun ⟨transition, member, arc⟩ =>
        (untouched transition member).1 arc⟩
  · exact fun place transition member arc => (marked_iff place).2 (.inl ⟨transition, member, arc⟩)

end Net

/-- **A step updates the marking and the fired sources at once**, and it does so in the
same way for every order of its instances. -/
theorem step?_simultaneous {σ : Type} [WordSource σ] {net : Net}
    (valid : net.validate = .ok ()) {preferred : Option String} {state after : RunState}
    {source rest : σ} {arbitration : Arbitration}
    (sized : state.marking.marks.length = net.places.length)
    (taken : (Engine.ofNet net).step? preferred state source = some (arbitration, after, rest)) :
    net.SimultaneousUpdate state arbitration.step.instances after ∧
      ∀ order : List TransitionId,
        (∀ transition, transition ∈ order ↔ transition ∈ arbitration.step.instances) →
          (Engine.ofNet net).apply order state.marking = after.marking ∧
            ((Engine.ofNet net).recordSources order state.fired).toSet = after.fired.toSet := by
  have consistent := Net.validate_eq_ok_iff.1 valid
  have move := consistent.move_of_step? sized taken
  refine ⟨move.simultaneousUpdate consistent sized, fun order same => ⟨?_, ?_⟩⟩
  · rw [consistent.apply_eq_effect sized, move.marking_eq]
    exact Net.effect_congr state.marking same
  · ext transition
    rw [consistent.mem_recordSources, move.mem_fired, same]

/-- Among the rivals the place that one instance consumes stays marked, because the source
produces a token on it in the same step. -/
theorem rivals_step_simultaneous :
    ∃ arbitration after rest,
      (Engine.ofNet Net.rivals).step? none
          { marking := .initial Net.rivals, fired := .empty }
          (Random.Cycle.ofWords [4000000000, 1]) = some (arbitration, after, rest) ∧
        arbitration.step.instances = [0, 3] ∧ after.marking.marks = [true, true] ∧
          Net.rivals.SimultaneousUpdate { marking := .initial Net.rivals, fired := .empty }
            arbitration.step.instances after := by
  have taken : ((Engine.ofNet Net.rivals).step? none
      { marking := .initial Net.rivals, fired := .empty }
      (Random.Cycle.ofWords [4000000000, 1])).isSome = true := by
    decide +kernel
  exact ⟨_, _, _, (Option.some_get taken).symm, by decide +kernel, by decide +kernel,
    (step?_simultaneous Net.rivals_validate rfl (Option.some_get taken).symm).1⟩

end EventNet
