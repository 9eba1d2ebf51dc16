import EventNet.Proofs.Firing.Competition
import EventNet.Proofs.Run.Trace

/-!
# Runs that do not depend on the order

If no place is consumed by transitions of different names, the buses do not compete, and
every order of the enabled buses leads to the same choice (`Net.Consistent.steps_alike`). So
two runs with different seeds and different stories go through the same markings, with the
same instances and labels in every step (`Net.Consistent.courses_alike`, `runs_alike`). What
the words and the story can change is the order inside a step.

The states of two such runs need not be equal: the fired sources have been recorded in
different orders. They are alike (`RunState.Alike`), and a net makes no difference between
states that are alike (`Engine.enabledBuses_congr`).
-/

set_option autoImplicit false

namespace EventNet

open EventNet.Random (WordSource)

/-! ## States and steps that are alike -/

/-- The marking is the same, and the same sources have fired, in whatever order. -/
structure RunState.Alike (first second : RunState) : Prop where
  marking_eq : first.marking = second.marking
  fired_eq : first.fired.toSet = second.fired.toSet

theorem RunState.Alike.refl (state : RunState) : state.Alike state := ⟨rfl, rfl⟩

/-- The same labels and the same instances, in whatever order. -/
structure Step.Alike (first second : Step) : Prop where
  labels_perm : first.labels.Perm second.labels
  instances_perm : first.instances.Perm second.instances

namespace Engine

variable {engine : Engine} {first second : RunState}

theorem isEnabled_congr (alike : first.Alike second) :
    engine.isEnabled first.marking first.fired = engine.isEnabled second.marking second.fired := by
  funext transition
  have contains : first.fired.contains transition = second.fired.contains transition := by
    rw [Bool.eq_iff_iff, FiredSources.contains_iff, FiredSources.contains_iff, alike.fired_eq]
  simp only [isEnabled, contains, alike.marking_eq]

/-- In states that are alike the same buses are enabled. -/
theorem enabledBuses_congr (alike : first.Alike second) :
    engine.enabledBuses first.marking first.fired =
      engine.enabledBuses second.marking second.fired := by
  simp only [enabledBuses, isEnabled_congr alike]

theorem isQuiescent_congr (alike : first.Alike second) :
    engine.isQuiescent first.marking first.fired =
      engine.isQuiescent second.marking second.fired := by
  simp only [isQuiescent, isEnabled_congr alike]

/-- In states that are alike there is a step, or there is none, whatever is drawn and whatever
is preferred. -/
theorem step?_eq_none_congr {σ τ : Type} [WordSource σ] [WordSource τ]
    (alike : first.Alike second) {preferred other : Option String} {source : σ}
    {otherSource : τ} :
    engine.step? preferred first source = none ↔
      engine.step? other second otherSource = none := by
  rw [step?_eq_none_iff, step?_eq_none_iff, enabledBuses_congr alike]

end Engine

namespace Net

variable {net : Net}

/-- Moves by steps that are alike lead to states that are alike. -/
theorem Move.alike {first second afterFirst afterSecond : RunState} {step other : Step}
    (move : net.Move first step afterFirst) (otherMove : net.Move second other afterSecond)
    (alike : first.Alike second) (steps : step.Alike other) :
    afterFirst.Alike afterSecond where
  marking_eq := by
    rw [move.marking_eq, otherMove.marking_eq, alike.marking_eq]
    exact effect_congr _ fun transition => steps.instances_perm.mem_iff
  fired_eq := by
    ext transition
    rw [move.mem_fired, otherMove.mem_fired, alike.fired_eq, steps.instances_perm.mem_iff]

/-- **Whatever is drawn and whatever is preferred, the steps are alike**, if the buses do
not compete. -/
theorem Consistent.steps_alike {σ τ : Type} [WordSource σ] [WordSource τ]
    (consistent : net.Consistent) (apart : net.BusesApart) {first second : RunState}
    (alike : first.Alike second) {preferred other : Option String} {source rest : σ}
    {otherSource otherRest : τ} {arbitration otherArbitration : Arbitration}
    {afterFirst afterSecond : RunState}
    (taken : (Engine.ofNet net).step? preferred first source =
      some (arbitration, afterFirst, rest))
    (otherTaken : (Engine.ofNet net).step? other second otherSource =
      some (otherArbitration, afterSecond, otherRest)) :
    arbitration.step.Alike otherArbitration.step := by
  obtain ⟨order, rearranged, -, rfl, -⟩ := Engine.exists_order_of_step? taken
  obtain ⟨otherOrder, otherRearranged, -, rfl, -⟩ := Engine.exists_order_of_step? otherTaken
  rw [← Engine.enabledBuses_congr alike] at otherRearranged
  have agenda := consistent.agenda_enabledBuses first.marking first.fired
  have orders : order.Perm otherOrder := rearranged.trans otherRearranged.symm
  rw [(agenda.perm rearranged).arbitrate_step_of_buses_apart consistent apart,
    (agenda.perm otherRearranged).arbitrate_step_of_buses_apart consistent apart]
  exact ⟨orders.map _, orders.flatMap_right _⟩

end Net

/-! ## Courses that are alike -/

/-- A moment with a step and a state that are alike. -/
structure Moment.Alike (first second : Moment) : Prop where
  step : first.step.Alike second.step
  state : first.state.Alike second.state

/-- The courses are alike moment by moment and end alike, for the same reason. -/
structure Course.Alike (first second : Course) : Prop where
  moments : List.Forall₂ Moment.Alike first.moments second.moments
  final : first.final.Alike second.final
  stopped_eq : first.stopped = second.stopped

/-- **Courses from states that are alike are alike**, for any two stories and any two sources
of words. -/
theorem Net.Consistent.courses_alike {σ τ : Type} [WordSource σ] [WordSource τ] {net : Net}
    (consistent : net.Consistent) (apart : net.BusesApart) {first second : RunState}
    (sized : first.marking.marks.length = net.places.length) (alike : first.Alike second)
    (story otherStory : List String) (source : σ) (otherSource : τ) (budget : Nat) :
    ((Engine.ofNet net).courseFrom story first source budget).Alike
      ((Engine.ofNet net).courseFrom otherStory second otherSource budget) := by
  induction budget generalizing first second story otherStory source otherSource with
  | zero => exact ⟨.nil, alike, rfl⟩
  | succ budget ih =>
    cases taken : (Engine.ofNet net).step? story.head? first source with
    | none =>
      have otherTaken : (Engine.ofNet net).step? otherStory.head? second otherSource = none :=
        (Engine.step?_eq_none_congr alike).1 taken
      rw [Engine.courseFrom_of_none taken, Engine.courseFrom_of_none otherTaken]
      exact ⟨.nil, alike, rfl⟩
    | some result =>
      cases otherTaken : (Engine.ofNet net).step? otherStory.head? second otherSource with
      | none =>
        have absent : (Engine.ofNet net).step? story.head? first source = none :=
          (Engine.step?_eq_none_congr alike).2 otherTaken
        exact absurd (taken.symm.trans absent) (Option.some_ne_none _)
      | some otherResult =>
        have move := consistent.move_of_step? sized taken
        have otherMove := consistent.move_of_step? (alike.marking_eq ▸ sized) otherTaken
        have steps := consistent.steps_alike apart alike taken otherTaken
        have after := move.alike otherMove alike steps
        rw [Engine.courseFrom_of_step taken, Engine.courseFrom_of_step otherTaken]
        have rest := ih move.sized after
          (advance result.1.step.labels story) (advance otherResult.1.step.labels otherStory)
          result.2.2 otherResult.2.2
        exact ⟨.cons ⟨steps, after⟩ rest.moments, rest.final, rest.stopped_eq⟩

/-! ## Traces that are alike -/

/-- The same number, marking, labels and instances, the last two in whatever order. -/
structure StepRecord.Alike (first second : StepRecord) : Prop where
  step_eq : first.step = second.step
  labels_perm : first.firedLabels.Perm second.firedLabels
  instances_perm : first.firedInstances.Perm second.firedInstances
  marking_eq : first.marking = second.marking

/-- The traces are alike record by record, with the same final marking and the same flag. -/
structure Trace.Alike (first second : Trace) : Prop where
  steps : List.Forall₂ StepRecord.Alike first.steps second.steps
  quiescent_eq : first.quiescent = second.quiescent
  finalMarking_eq : first.finalMarking = second.finalMarking

theorem recordsFrom_alike (net : Net) (number : Nat) {moments others : List Moment}
    (alike : List.Forall₂ Moment.Alike moments others) :
    List.Forall₂ StepRecord.Alike (recordsFrom net number moments)
      (recordsFrom net number others) := by
  induction alike generalizing number with
  | nil => exact .nil
  | cons head tail ih =>
    refine .cons ⟨rfl, head.step.labels_perm, head.step.instances_perm, ?_⟩ (ih (number + 1))
    exact congrArg (Marking.snapshot net) head.state.marking_eq

/-- Courses that are alike have traces that are alike. -/
theorem Course.Alike.trace {first second : Course} (alike : first.Alike second) (engine : Engine)
    (seed otherSeed : UInt64) :
    (first.trace engine seed).Alike (second.trace engine otherSeed) where
  steps := recordsFrom_alike engine.net 1 alike.moments
  quiescent_eq := by
    simp only [Course.trace, alike.stopped_eq, Engine.isQuiescent_congr alike.final]
  finalMarking_eq := congrArg (Marking.snapshot engine.net) alike.final.marking_eq

/-- **Where the buses do not compete, runs differ only in the order inside a step.** With a
positive budget any two runs succeed, for any seeds and stories, and their traces are alike. -/
theorem runs_alike {net : Net} (valid : net.validate = .ok ()) (apart : net.BusesApart)
    {budget : Nat} (positive : 0 < budget) (seed otherSeed : UInt64)
    (story otherStory : List String) :
    ∃ trace log otherTrace otherLog, runStory net budget seed story = .ok (trace, log) ∧
      runStory net budget otherSeed otherStory = .ok (otherTrace, otherLog) ∧
        trace.Alike otherTrace := by
  have consistent := Net.validate_eq_ok_iff.1 valid
  obtain ⟨log, told⟩ := runStory_eq_ok net positive seed story
  obtain ⟨otherLog, otherTold⟩ := runStory_eq_ok net positive otherSeed otherStory
  have courses : ((Engine.ofNet net).course budget seed story).Alike
      ((Engine.ofNet net).course budget otherSeed otherStory) :=
    consistent.courses_alike apart (Marking.length_initial net) (.refl _) _ _ _ _ _
  exact ⟨_, log, _, otherLog, told, otherTold, courses.trace _ _ _⟩

/-- A net in which only transitions of one name compete: both of the left ones consume the
token that the right one gives back. -/
def Net.siblings : Net where
  places := [{ name := "p", factual := true }, { name := "q" }, { name := "r", factual := true }]
  transitions := [{ name := "left", arcs := [0, 1] }, { name := "left", arcs := [2, 3] },
    { name := "right", arcs := [4, 5] }]
  arcs := [⟨0, 0, .consume⟩, ⟨1, 0, .produce⟩, ⟨0, 1, .consume⟩, ⟨2, 1, .produce⟩,
    ⟨2, 2, .consume⟩, ⟨0, 2, .produce⟩]
  placeArcs := [[0, 2, 5], [1], [3, 4]]
  buses := ⟨[("left", [0, 1]), ("right", [2])], by decide⟩

/-- With another seed and with a story the siblings run in the same way, but the labels of the
first step come in another order. -/
theorem siblings_runs_alike :
    ∃ trace log otherTrace otherLog, runStory Net.siblings 4 7 [] = .ok (trace, log) ∧
      runStory Net.siblings 4 8 ["left", "right"] = .ok (otherTrace, otherLog) ∧
        trace.Alike otherTrace ∧
          trace.steps.map StepRecord.firedLabels = [["right", "left"], ["left"]] ∧
            otherTrace.steps.map StepRecord.firedLabels = [["left", "right"], ["left"]] := by
  obtain ⟨trace, log, otherTrace, otherLog, told, otherTold, alike⟩ :=
    runs_alike (by decide +kernel : Net.siblings.validate = .ok ()) (by decide)
      (show 0 < 4 by decide) 7 8 [] ["left", "right"]
  refine ⟨trace, log, otherTrace, otherLog, told, otherTold, alike, ?_, ?_⟩
  · exact view_eq_of_eq_ok told (fun trace => trace.steps.map _) (by decide +kernel)
  · exact view_eq_of_eq_ok otherTold (fun trace => trace.steps.map _) (by decide +kernel)

end EventNet
