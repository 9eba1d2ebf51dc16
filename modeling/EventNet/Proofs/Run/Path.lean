import EventNet.Proofs.Firing.Effect
import EventNet.Run

/-!
# Runs are paths

A path leads from state to state by moves (`Net.Path`). The course that an engine takes is
a path, for every story, budget and random source, as long as it starts from a marking of
the right size (`Net.Consistent.path_courseFrom`). A course that is shorter than its
budget has stopped (`Engine.stopped_of_lt`), and it has stopped only where nothing is
enabled (`Net.Consistent.not_enabled_of_stopped`).

Along a path a source has fired exactly if it had fired at the start or is among the
instances of an earlier moment (`Net.Path.mem_fired_stateAt`).
-/

set_option autoImplicit false

namespace EventNet

open EventNet.Random (WordSource)

/-- The step of a moment. -/
def Moment.step (moment : Moment) : Step := moment.arbitration.step

/-! ## Courses unfolded -/

namespace Engine

variable {σ : Type} [WordSource σ] {engine : Engine} {story : List String} {state : RunState}
variable {source : σ} {budget : Nat}

theorem courseFrom_of_none (none : engine.step? story.head? state source = none) :
    engine.courseFrom story state source (budget + 1) =
      { moments := [], final := state, progress := 0, stopped := true } := by
  simp only [courseFrom, none]

theorem courseFrom_of_step {arbitration : Arbitration} {after : RunState} {rest : σ}
    (taken : engine.step? story.head? state source = some (arbitration, after, rest)) :
    engine.courseFrom story state source (budget + 1) =
      let remaining := advance arbitration.step.labels story
      let course := engine.courseFrom remaining after rest budget
      { course with
        moments := { arbitration, state := after } :: course.moments
        progress := (story.length - remaining.length) + course.progress } := by
  simp only [courseFrom, taken]

theorem length_moments_courseFrom :
    (engine.courseFrom story state source budget).moments.length ≤ budget := by
  induction budget generalizing story state source with
  | zero => exact Nat.le_refl 0
  | succ budget ih =>
    cases taken : engine.step? story.head? state source with
    | none => simp [courseFrom_of_none taken]
    | some result =>
      rw [courseFrom_of_step taken]
      exact Nat.succ_le_succ ih

/-- A course that does not use its budget has stopped. -/
theorem stopped_of_lt
    (short : (engine.courseFrom story state source budget).moments.length < budget) :
    (engine.courseFrom story state source budget).stopped = true := by
  induction budget generalizing story state source with
  | zero => exact absurd short (Nat.not_lt_zero _)
  | succ budget ih =>
    cases taken : engine.step? story.head? state source with
    | none => simp [courseFrom_of_none taken]
    | some result =>
      rw [courseFrom_of_step taken] at short ⊢
      exact ih (Nat.lt_of_succ_lt_succ short)

/-- A course stops where no bus is enabled. -/
theorem enabledBuses_of_stopped
    (stopped : (engine.courseFrom story state source budget).stopped = true) :
    engine.enabledBuses (engine.courseFrom story state source budget).final.marking
      (engine.courseFrom story state source budget).final.fired = [] := by
  induction budget generalizing story state source with
  | zero => simp [courseFrom] at stopped
  | succ budget ih =>
    cases taken : engine.step? story.head? state source with
    | none =>
      rw [courseFrom_of_none taken]
      exact step?_eq_none_iff.1 taken
    | some result =>
      rw [courseFrom_of_step taken] at stopped ⊢
      exact ih stopped

end Engine

/-! ## Paths -/

namespace Net

/-- A path from one state to another, with its moments. -/
inductive Path (net : Net) : RunState → List Moment → RunState → Prop where
  | stay (state : RunState) : Path net state [] state
  | move {before final : RunState} {moment : Moment} {moments : List Moment} :
      net.Move before moment.step moment.state → Path net moment.state moments final →
        Path net before (moment :: moments) final

/-- **The course of an engine is a path.** -/
theorem Consistent.path_courseFrom {σ : Type} [WordSource σ] {net : Net}
    (consistent : net.Consistent) {story : List String} {state : RunState} {source : σ}
    {budget : Nat} (sized : state.marking.marks.length = net.places.length) :
    net.Path state ((Engine.ofNet net).courseFrom story state source budget).moments
      ((Engine.ofNet net).courseFrom story state source budget).final := by
  induction budget generalizing story state source with
  | zero => exact .stay state
  | succ budget ih =>
    cases taken : (Engine.ofNet net).step? story.head? state source with
    | none =>
      rw [Engine.courseFrom_of_none taken]
      exact .stay state
    | some result =>
      have move := consistent.move_of_step? sized taken
      rw [Engine.courseFrom_of_step taken]
      exact .move move (ih move.sized)

/-- Where a course has stopped nothing is enabled. -/
theorem Consistent.not_enabled_of_stopped {σ : Type} [WordSource σ] {net : Net}
    (consistent : net.Consistent) {story : List String} {state : RunState} {source : σ}
    {budget : Nat}
    (stopped : ((Engine.ofNet net).courseFrom story state source budget).stopped = true) :
    ∀ transition, ¬net.Enabled
      ((Engine.ofNet net).courseFrom story state source budget).final.marking
      ((Engine.ofNet net).courseFrom story state source budget).final.fired.toSet transition :=
  consistent.enabledBuses_eq_nil_iff.1 (Engine.enabledBuses_of_stopped stopped)

end Net

/-- The state after a number of moments. -/
def stateAt (before : RunState) : List Moment → Nat → RunState
  | _, 0 => before
  | [], _ + 1 => before
  | moment :: moments, count + 1 => stateAt moment.state moments count

theorem stateAt_zero (before : RunState) (moments : List Moment) :
    stateAt before moments 0 = before := by
  cases moments <;> rfl

namespace Net.Path

variable {net : Net} {before final : RunState} {moments : List Moment}

theorem stateAt_length (path : net.Path before moments final) :
    stateAt before moments moments.length = final := by
  induction path with
  | stay state => rfl
  | move _ _ ih => exact ih

/-- Every moment of a path is a move. -/
theorem move_at (path : net.Path before moments final) {count : Nat} {moment : Moment}
    (found : moments[count]? = some moment) :
    net.Move (stateAt before moments count) moment.step moment.state ∧
      stateAt before moments (count + 1) = moment.state := by
  induction path generalizing count with
  | stay state => simp at found
  | move first rest ih =>
    cases count with
    | zero =>
      cases found
      exact ⟨first, stateAt_zero _ _⟩
    | succ count => exact ih found

/-- **The sources that have fired on a path are those of its moments.** -/
theorem mem_fired_stateAt (path : net.Path before moments final) (count : Nat)
    (transition : TransitionId) :
    transition ∈ (stateAt before moments count).fired.toSet ↔
      transition ∈ before.fired.toSet ∨ net.IsSource transition ∧
        ∃ moment ∈ moments.take count, transition ∈ moment.step.instances := by
  induction path generalizing count with
  | stay state => cases count <;> simp [stateAt]
  | move first rest ih =>
    cases count with
    | zero => simp [stateAt]
    | succ count =>
      rw [stateAt, ih, first.mem_fired, List.take_succ_cons, List.exists_mem_cons_iff]
      tauto

end Net.Path

end EventNet
