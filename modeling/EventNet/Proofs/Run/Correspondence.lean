import EventNet.Proofs.Firing.Correspondence
import EventNet.Proofs.Run.Path

/-!
# Runs of nets that correspond

Two nets that correspond run in step. From corresponding states, with the same story, the
same words and the same budget, their courses correspond moment by moment
(`Net.Corresponds.courseFrom`), so the same labels and instances are recorded, and the same
is logged.

How the markings in two such traces are related depends on what the pairing of the places
has to do with their names. This is left open here: `Trace.SameUpTo` compares two traces up
to a relation between their snapshots, and the runs are the same up to any relation that
holds between the snapshots of corresponding markings (`Net.Corresponds.runStory`).
-/

set_option autoImplicit false

namespace EventNet

open EventNet.Random (WordSource)

variable {pairs : PlaceId → PlaceId → Prop}

/-! ## Courses -/

/-- The choices and the states behind them correspond. -/
structure Moment.Corresponds (pairs : PlaceId → PlaceId → Prop) (first second : Moment) :
    Prop where
  choice : first.arbitration.Corresponds pairs second.arbitration
  state : first.state.Corresponds pairs second.state

/-- The courses correspond moment by moment and end in the same way. -/
structure Course.Corresponds (pairs : PlaceId → PlaceId → Prop) (first second : Course) :
    Prop where
  moments : List.Forall₂ (Moment.Corresponds pairs) first.moments second.moments
  final : first.final.Corresponds pairs second.final
  progress_eq : first.progress = second.progress
  stopped_eq : first.stopped = second.stopped

/-- **Courses from corresponding states correspond.** -/
theorem Net.Corresponds.courseFrom {σ : Type} [WordSource σ] {first second : Net}
    (nets : first.Corresponds pairs second) (consistent : first.Consistent)
    (consistentOther : second.Consistent) {state other : RunState}
    (states : state.Corresponds pairs other) (story : List String) (source : σ) (budget : Nat) :
    ((Engine.ofNet first).courseFrom story state source budget).Corresponds pairs
      ((Engine.ofNet second).courseFrom story other source budget) := by
  induction budget generalizing story state other source with
  | zero => exact ⟨.nil, states, rfl, rfl⟩
  | succ budget ih =>
    have steps := nets.step? consistent consistentOther states story.head? source
    generalize taken : (Engine.ofNet first).step? story.head? state source = here at steps
    generalize takenOther : (Engine.ofNet second).step? story.head? other source = there at steps
    cases steps with
    | none =>
      rw [Engine.courseFrom_of_none taken, Engine.courseFrom_of_none takenOther]
      exact ⟨.nil, states, rfl, rfl⟩
    | @some here there step =>
      obtain ⟨choice, after, rest⟩ := here
      obtain ⟨choiceOther, afterOther, restOther⟩ := there
      have choices : choice.Corresponds pairs choiceOther := step.choice
      have afters : after.Corresponds pairs afterOther := step.state
      obtain rfl : rest = restOther := step.source_eq
      have further := ih afters (advance choiceOther.step.labels story) rest
      rw [Engine.courseFrom_of_step taken, Engine.courseFrom_of_step takenOther,
        choices.step_eq]
      refine ⟨.cons ⟨choices, afters⟩ further.moments, further.final, ?_, further.stopped_eq⟩
      simp only [further.progress_eq]

/-! ## Traces -/

/-- The records agree in everything but the marking, and the markings are related. -/
structure StepRecord.SameUpTo (related : Snapshot → Snapshot → Prop)
    (first second : StepRecord) : Prop where
  step_eq : first.step = second.step
  firedLabels_eq : first.firedLabels = second.firedLabels
  firedInstances_eq : first.firedInstances = second.firedInstances
  marking : related first.marking second.marking

/-- The traces agree in everything but the markings, and the markings are related. -/
structure Trace.SameUpTo (related : Snapshot → Snapshot → Prop) (first second : Trace) :
    Prop where
  seed_eq : first.seed = second.seed
  steps : List.Forall₂ (StepRecord.SameUpTo related) first.steps second.steps
  quiescent_eq : first.quiescent = second.quiescent
  finalMarking : related first.finalMarking second.finalMarking
  storyProgress_eq : first.storyProgress = second.storyProgress

/-- Records that are the same up to equality are equal. -/
theorem StepRecord.SameUpTo.eq {first second : StepRecord}
    (same : first.SameUpTo Eq second) : first = second := by
  cases first
  cases second
  obtain ⟨rfl, rfl, rfl, rfl⟩ := same
  rfl

/-- Traces that are the same up to equality are equal. -/
theorem Trace.SameUpTo.eq {first second : Trace} (same : first.SameUpTo Eq second) :
    first = second := by
  cases first
  cases second
  obtain ⟨rfl, steps, rfl, rfl, rfl⟩ := same
  have records := List.forall₂_eq_eq_eq ▸ steps.imp fun _ _ => StepRecord.SameUpTo.eq
  cases records
  rfl

section Records

variable {related : Snapshot → Snapshot → Prop} {first second : Net}
variable (shown : ∀ {marking other : Marking}, marking.Corresponds pairs other →
  related (marking.snapshot first) (other.snapshot second))
include shown

theorem sameUpTo_recordsFrom (number : Nat) {moments others : List Moment}
    (correspond : List.Forall₂ (Moment.Corresponds pairs) moments others) :
    List.Forall₂ (StepRecord.SameUpTo related) (recordsFrom first number moments)
      (recordsFrom second number others) := by
  induction correspond generalizing number with
  | nil => exact .nil
  | cons head tail ih =>
    refine .cons ⟨rfl, ?_, ?_, shown head.state.marking⟩ (ih (number + 1))
    · rw [head.choice.step_eq]
    · rw [head.choice.step_eq]

end Records

theorem stepsLogFrom_eq (seed : UInt64) (number : Nat) {moments others : List Moment}
    (correspond : List.Forall₂ (Moment.Corresponds pairs) moments others) :
    stepsLogFrom seed number moments = stepsLogFrom seed number others := by
  induction correspond generalizing number with
  | nil => rfl
  | cons head tail ih =>
    simp only [stepsLogFrom, Arbitration.log, head.choice.step_eq, head.choice.displaced_eq, ih]

/-- Courses that correspond are logged in the same way. -/
theorem Course.Corresponds.log_eq {first second : Course} (courses : first.Corresponds pairs second)
    (seed : UInt64) : first.log seed = second.log seed := by
  simp only [Course.log, stepsLogFrom_eq seed 1 courses.moments, courses.moments.length_eq,
    courses.stopped_eq]

/-- Courses that correspond have the same trace up to the markings. -/
theorem Net.Corresponds.sameUpTo_trace {first second : Net} (nets : first.Corresponds pairs second)
    (consistent : first.Consistent) (consistentOther : second.Consistent)
    {related : Snapshot → Snapshot → Prop}
    (shown : ∀ {marking other : Marking}, marking.Corresponds pairs other →
      related (marking.snapshot first) (other.snapshot second))
    {course other : Course} (courses : course.Corresponds pairs other) (seed : UInt64) :
    (course.trace (Engine.ofNet first) seed).SameUpTo related
      (other.trace (Engine.ofNet second) seed) where
  seed_eq := rfl
  steps := sameUpTo_recordsFrom shown 1 courses.moments
  quiescent_eq := by
    simp only [Course.trace, courses.stopped_eq,
      nets.isQuiescent_eq consistent consistentOther courses.final]
  finalMarking := shown courses.final.marking
  storyProgress_eq := courses.progress_eq

/-- **Corresponding nets run in step**: their traces are the same up to the markings, and
their logs are the same. -/
theorem Net.Corresponds.runStory {first second : Net} (nets : first.Corresponds pairs second)
    (consistent : first.Consistent) (consistentOther : second.Consistent)
    {related : Snapshot → Snapshot → Prop}
    (start : (Marking.initial first).Corresponds pairs (Marking.initial second))
    (shown : ∀ {marking other : Marking}, marking.Corresponds pairs other →
      related (marking.snapshot first) (other.snapshot second))
    {budget : Nat} (positive : 0 < budget) (seed : UInt64) (story : List String) :
    ∃ trace other log, runStory first budget seed story = .ok (trace, log) ∧
      runStory second budget seed story = .ok (other, log) ∧ trace.SameUpTo related other := by
  have courses : ((Engine.ofNet first).course budget seed story).Corresponds pairs
      ((Engine.ofNet second).course budget seed story) := by
    have states : (RunState.initial first).Corresponds pairs (RunState.initial second) :=
      ⟨start, rfl⟩
    exact nets.courseFrom consistent consistentOther states story _ budget
  have used : budget ≠ 0 := Nat.ne_of_gt positive
  simp only [EventNet.runStory, if_neg used]
  rw [courses.log_eq, courses.progress_eq]
  exact ⟨_, _, _, rfl, rfl,
    nets.sameUpTo_trace consistent consistentOther shown courses seed⟩

end EventNet
