import EventNet.Proofs.Firing.Preference
import EventNet.Proofs.Run.Trace
import Mathlib.Data.List.Forall2
import Mathlib.Order.Bounds.Defs

/-!
# How a run tells a story

A story is told label by label. Every step prefers the label at which the story has come,
and passes it if it fires. The label fires exactly if its bus is enabled at the start of the
step, and then it fires first (`Net.Consistent.passesOrWaits`). So a cursor goes through the
story, by at most one label in a step (`Net.Tells`).

What a cursor passes can be said without it. A step cannot pass two labels, and to pass a
label at the first chance never keeps a later one from being passed. Therefore the cursor
ends behind the longest beginning of the story whose labels occur in steps one after another
(`isGreatest_passed`, `runStory_tells`).
-/

set_option autoImplicit false

namespace EventNet

open EventNet.Random (WordSource)

/-! ## Labels passed by steps -/

/-- The labels occur in steps that fired these labels, every label in a later step than the
one before it. -/
def OccursIn (labels : List String) (fired : List (List String)) : Prop :=
  List.SublistForall₂ (fun label step => label ∈ step) labels fired

/-- How many labels of a story are passed by steps that fired these labels, if every label is
passed by the first step that has fired it. -/
def passed : (story : List String) → (fired : List (List String)) → Nat
  | _, [] => 0
  | [], _ :: _ => 0
  | label :: story, step :: fired =>
    if label ∈ step then passed story fired + 1 else passed (label :: story) fired

section Passed

variable {label : String} {story step : List String} {fired : List (List String)}

theorem passed_nil (story : List String) : passed story [] = 0 := by
  cases story <;> rfl

theorem passed_nil_story (fired : List (List String)) : passed [] fired = 0 := by
  cases fired <;> rfl

theorem passed_of_mem (fires : label ∈ step) :
    passed (label :: story) (step :: fired) = passed story fired + 1 :=
  if_pos fires

theorem passed_of_not_mem (waits : label ∉ step) :
    passed (label :: story) (step :: fired) = passed (label :: story) fired :=
  if_neg waits

theorem advance_nil (step : List String) : advance step [] = [] := rfl

theorem advance_of_mem (fires : label ∈ step) : advance step (label :: story) = story :=
  if_pos (List.contains_iff_mem.2 fires)

theorem advance_of_not_mem (waits : label ∉ step) :
    advance step (label :: story) = label :: story :=
  if_neg (mt List.contains_iff_mem.1 waits)

/-- A step passes as many labels as it takes away from the story. -/
theorem passed_cons (story step : List String) (fired : List (List String)) :
    passed story (step :: fired) =
      story.length - (advance step story).length + passed (advance step story) fired := by
  cases story with
  | nil => simp [passed_nil_story, advance_nil]
  | cons label story =>
    by_cases fires : label ∈ step
    · rw [passed_of_mem fires, advance_of_mem fires, List.length_cons]
      omega
    · rw [passed_of_not_mem fires, advance_of_not_mem fires, Nat.sub_self, Nat.zero_add]

/-- The label under the cursor after a step is that of what is left of the story. -/
theorem getElem?_passed_cons (story step : List String) (fired : List (List String)) :
    story[passed story (step :: fired)]? =
      (advance step story)[passed (advance step story) fired]? := by
  cases story with
  | nil => simp [advance_nil]
  | cons label story =>
    by_cases fires : label ∈ step
    · rw [passed_of_mem fires, advance_of_mem fires, List.getElem?_cons_succ]
    · rw [passed_of_not_mem fires, advance_of_not_mem fires]

theorem passed_le_length (story : List String) (fired : List (List String)) :
    passed story fired ≤ story.length := by
  induction fired generalizing story with
  | nil => simp [passed_nil]
  | cons step fired ih =>
    cases story with
    | nil => exact Nat.le_refl 0
    | cons label story =>
      by_cases fires : label ∈ step
      · rw [passed_of_mem fires]
        exact Nat.succ_le_succ (ih story)
      · rw [passed_of_not_mem fires]
        exact ih (label :: story)

/-- A step passes at most one label. -/
theorem passed_le_length_fired (story : List String) (fired : List (List String)) :
    passed story fired ≤ fired.length := by
  induction fired generalizing story with
  | nil => simp [passed_nil]
  | cons step fired ih =>
    cases story with
    | nil => exact Nat.zero_le _
    | cons label story =>
      by_cases fires : label ∈ step
      · rw [passed_of_mem fires]
        exact Nat.succ_le_succ (ih story)
      · rw [passed_of_not_mem fires]
        exact (ih (label :: story)).trans (Nat.le_succ _)

/-- Later steps go on where earlier ones have come to. -/
theorem passed_append (story : List String) (fired later : List (List String)) :
    passed story (fired ++ later) =
      passed story fired + passed (story.drop (passed story fired)) later := by
  induction fired generalizing story with
  | nil => simp [passed_nil]
  | cons step fired ih =>
    cases story with
    | nil => simp [passed_nil_story]
    | cons label story =>
      by_cases fires : label ∈ step
      · rw [List.cons_append, passed_of_mem fires, passed_of_mem fires, ih, List.drop_succ_cons,
          Nat.add_right_comm]
      · rw [List.cons_append, passed_of_not_mem fires, passed_of_not_mem fires, ih]

/-- One more step passes the label under the cursor if it has fired it, and nothing else. -/
theorem passed_concat (story : List String) (fired : List (List String)) (step : List String) :
    passed story (fired ++ [step]) =
      passed story fired +
        if ∃ label, story[passed story fired]? = some label ∧ label ∈ step then 1 else 0 := by
  rw [passed_append]
  refine congrArg (passed story fired + ·) ?_
  cases found : story[passed story fired]? with
  | none => simp [List.drop_eq_nil_of_le (List.getElem?_eq_none_iff.1 found), passed_nil_story]
  | some label =>
    obtain ⟨inside, rfl⟩ := List.getElem?_eq_some_iff.1 found
    rw [List.drop_eq_getElem_cons inside, passed, passed_nil, passed_nil]
    simp

/-- Without the first label, what is left still occurs. -/
theorem OccursIn.of_cons {labels : List String} (occurs : OccursIn (label :: labels) fired) :
    OccursIn labels fired := by
  induction fired with
  | nil => cases occurs
  | cons step fired ih =>
    cases occurs with
    | cons _ rest => exact .cons_right rest
    | cons_right rest => exact .cons_right (ih rest)

/-- **Passing labels at the first chance passes as many as can be passed.** -/
theorem occursIn_take_iff {count : Nat} (within : count ≤ story.length) :
    OccursIn (story.take count) fired ↔ count ≤ passed story fired := by
  induction fired generalizing story count with
  | nil =>
    rw [passed_nil]
    cases count with
    | zero => exact iff_of_true .nil (Nat.le_refl 0)
    | succ count =>
      obtain ⟨label, story, rfl⟩ := List.exists_cons_of_length_pos (Nat.zero_lt_of_lt within)
      exact iff_of_false nofun (Nat.not_succ_le_zero count)
  | cons step fired ih =>
    cases count with
    | zero => exact iff_of_true .nil (Nat.zero_le _)
    | succ count =>
      obtain ⟨label, story, rfl⟩ := List.exists_cons_of_length_pos (Nat.zero_lt_of_lt within)
      rw [List.take_succ_cons]
      by_cases fires : label ∈ step
      · -- an occurrence that leaves this step out can be given this step
        rw [passed_of_mem fires, Nat.succ_le_succ_iff, ← ih (Nat.le_of_succ_le_succ within)]
        constructor
        · intro occurs
          cases occurs with
          | cons _ rest => exact rest
          | cons_right rest => exact OccursIn.of_cons rest
        · exact .cons fires
      · rw [passed_of_not_mem fires, ← ih within, List.take_succ_cons]
        constructor
        · intro occurs
          cases occurs with
          | cons here _ => exact absurd here fires
          | cons_right rest => exact rest
        · exact .cons_right

/-- The labels passed are the longest beginning of the story that occurs in the steps. -/
theorem isGreatest_passed (story : List String) (fired : List (List String)) :
    IsGreatest {count | count ≤ story.length ∧ OccursIn (story.take count) fired}
      (passed story fired) := by
  refine ⟨⟨passed_le_length story fired, ?_⟩, ?_⟩
  · exact (occursIn_take_iff (passed_le_length story fired)).2 (Nat.le_refl _)
  · rintro count ⟨within, occurs⟩
    exact (occursIn_take_iff within).1 occurs

end Passed

/-! ## The label at which a story has come -/

namespace Net

/-- The labels of a step are those of buses that were enabled. -/
theorem MaximalStep.busEnabled {net : Net} {marking : Marking} {fired : Set TransitionId}
    {step : Step} (choice : net.MaximalStep marking fired step) {label : String}
    (listed : label ∈ step.labels) : net.BusEnabled marking fired label := by
  rw [choice.labels_eq, List.mem_eraseDups] at listed
  obtain ⟨transition, accepted, named⟩ := List.mem_filterMap.1 listed
  exact ⟨transition, named, choice.instances_enabled transition accepted⟩

/-- A preferred bus fires first if it is enabled. -/
theorem Consistent.head?_labels_of_step? {σ : Type} [WordSource σ] {net : Net}
    (consistent : net.Consistent) {state after : RunState} {source rest : σ} {label : String}
    {arbitration : Arbitration}
    (taken : (Engine.ofNet net).step? (some label) state source = some (arbitration, after, rest))
    (enabled : net.BusEnabled state.marking state.fired.toSet label) :
    arbitration.step.labels.head? = some label := by
  have named : ((Engine.ofNet net).enabledPart state.marking state.fired label).label = label :=
    rfl
  obtain ⟨plain, guided, -, happens, favours⟩ :=
    consistent.favours source (consistent.enabledPart_mem_iff.2 enabled) named
  rw [Engine.run_stepInPlace, taken] at happens
  rw [Option.some.inj happens]
  exact favours.labels_head

/-- What becomes of the label under a cursor in a step, whose record is given. -/
structure PassesOrWaits (net : Net) (marking : Marking) (fired : Set TransitionId)
    (label : String) (record : StepRecord) (cursor next : Nat) : Prop where
  fires_iff : label ∈ record.firedLabels ↔ net.BusEnabled marking fired label
  passes : label ∈ record.firedLabels →
    record.firedLabels.head? = some label ∧ next = cursor + 1
  waits : label ∉ record.firedLabels → next = cursor

/-- **The label under the cursor fires exactly if its bus is enabled**, and then it is the
first to fire and the only one to be passed. -/
theorem Consistent.passesOrWaits {σ : Type} [WordSource σ] {net : Net}
    (consistent : net.Consistent) {state after : RunState} {source rest : σ}
    {arbitration : Arbitration} {story : List String} {fired : List (List String)}
    {label : String} {record : StepRecord}
    (under : story[passed story fired]? = some label)
    (taken : (Engine.ofNet net).step? (some label) state source = some (arbitration, after, rest))
    (recorded : record.firedLabels = arbitration.step.labels) :
    net.PassesOrWaits state.marking state.fired.toSet label record (passed story fired)
      (passed story (fired ++ [record.firedLabels])) := by
  have busEnabled : label ∈ record.firedLabels →
      net.BusEnabled state.marking state.fired.toSet label :=
    fun fires => (consistent.choice_of_step? taken).busEnabled (recorded ▸ fires)
  have first : net.BusEnabled state.marking state.fired.toSet label →
      record.firedLabels.head? = some label :=
    fun enabled => recorded ▸ consistent.head?_labels_of_step? taken enabled
  refine ⟨⟨busEnabled, fun enabled => List.mem_of_head? (first enabled)⟩, fun fires => ?_,
    fun waits => ?_⟩
  · refine ⟨first (busEnabled fires), ?_⟩
    rw [passed_concat, if_pos ⟨label, under, fires⟩]
  · have nothing : ¬∃ other, story[passed story fired]? = some other ∧
        other ∈ record.firedLabels := by
      rintro ⟨other, here, fires⟩
      cases under.symm.trans here
      exact waits fires
    rw [passed_concat, if_neg nothing, Nat.add_zero]

/-- The trace of a run through markings tells a story, whose labels a cursor passes. -/
structure Tells (net : Net) (story : List String) (markings : Nat → Marking)
    (cursor : Nat → Nat) (trace : Trace) : Prop where
  cursor_zero : cursor 0 = 0
  at_label : ∀ (count : Nat) (record : StepRecord) (label : String),
    trace.steps[count]? = some record → story[cursor count]? = some label →
      net.PassesOrWaits (markings count) (net.sourcesIn (trace.steps.take count)) label record
        (cursor count) (cursor (count + 1))
  at_end : ∀ (count : Nat) (record : StepRecord), trace.steps[count]? = some record →
    story[cursor count]? = none → cursor (count + 1) = cursor count
  storyProgress_eq : trace.storyProgress = cursor trace.steps.length

end Net

/-! ## The course of a story -/

/-- The labels that fired, step by step. -/
def firedIn (moments : List Moment) : List (List String) :=
  moments.map fun moment => moment.step.labels

theorem firedLabels_recordsFrom (net : Net) (number : Nat) (moments : List Moment) :
    (recordsFrom net number moments).map StepRecord.firedLabels = firedIn moments := by
  induction moments generalizing number with
  | nil => rfl
  | cons moment moments ih => exact congrArg (_ :: ·) (ih (number + 1))

theorem firedIn_take_succ {moments : List Moment} {count : Nat} {moment : Moment}
    (here : moments[count]? = some moment) :
    (firedIn moments).take (count + 1) =
      (firedIn moments).take count ++ [moment.step.labels] := by
  rw [List.take_add_one, firedIn, List.getElem?_map, here]
  rfl

/-- A record tells what fired in the moment that it stands for. -/
theorem exists_moment_of_record {net : Net} {number count : Nat} {moments : List Moment}
    {record : StepRecord} (listed : (recordsFrom net number moments)[count]? = some record) :
    ∃ moment, moments[count]? = some moment ∧ record.firedLabels = moment.step.labels := by
  rw [getElem?_recordsFrom] at listed
  obtain ⟨moment, here, rfl⟩ := Option.map_eq_some_iff.1 listed
  exact ⟨moment, here, rfl⟩

namespace Engine

variable {σ : Type} [WordSource σ] {engine : Engine} {story : List String} {state : RunState}
variable {source : σ} {budget : Nat}

/-- The progress of a course is what its steps pass of the story. -/
theorem progress_courseFrom :
    (engine.courseFrom story state source budget).progress =
      passed story (firedIn (engine.courseFrom story state source budget).moments) := by
  induction budget generalizing story state source with
  | zero => exact (passed_nil story).symm
  | succ budget ih =>
    cases taken : engine.step? story.head? state source with
    | none =>
      rw [courseFrom_of_none taken]
      exact (passed_nil story).symm
    | some result =>
      rw [courseFrom_of_step taken]
      simp only [ih]
      exact (passed_cons story _ _).symm

/-- **Every step prefers the label under the cursor.** -/
theorem exists_step_of_moment {count : Nat} {moment : Moment}
    (found : (engine.courseFrom story state source budget).moments[count]? = some moment) :
    ∃ before after : σ,
      engine.step?
          story[passed story (firedIn
            ((engine.courseFrom story state source budget).moments.take count))]?
          (stateAt state (engine.courseFrom story state source budget).moments count) before =
        some (moment.arbitration, moment.state, after) := by
  induction budget generalizing story state source count with
  | zero => simp [courseFrom] at found
  | succ budget ih =>
    cases taken : engine.step? story.head? state source with
    | none => simp [courseFrom_of_none taken] at found
    | some result =>
      rw [courseFrom_of_step taken] at found ⊢
      cases count with
      | zero =>
        cases found
        refine ⟨source, result.2.2, ?_⟩
        simpa [firedIn, passed_nil, stateAt_zero, List.head?_eq_getElem?] using taken
      | succ count =>
        obtain ⟨before, after, step⟩ := ih found
        refine ⟨before, after, ?_⟩
        rw [List.take_succ_cons, firedIn, List.map_cons, getElem?_passed_cons]
        exact step

end Engine

/-! ## The trace of a story -/

/-- **A run tells its story**: at every step of its trace the label under the cursor fires if
it can, and is passed if it fires. -/
theorem Net.Consistent.exists_tells {net : Net} (consistent : net.Consistent) (budget : Nat)
    (seed : UInt64) (story : List String) :
    let trace := ((Engine.ofNet net).course budget seed story).trace (Engine.ofNet net) seed
    ∃ markings, net.IsRun budget markings trace ∧
      net.Tells story markings
        (fun count => passed story ((trace.steps.map StepRecord.firedLabels).take count))
        trace := by
  intro trace
  let moments := ((Engine.ofNet net).course budget seed story).moments
  have path : net.Path (RunState.initial net) moments
      ((Engine.ofNet net).course budget seed story).final :=
    consistent.path_courseFrom (Marking.length_initial net)
  have labels : trace.steps.map StepRecord.firedLabels = firedIn moments :=
    firedLabels_recordsFrom net 1 moments
  refine ⟨_, path.isRun Engine.length_moments_courseFrom Engine.stopped_of_lt
    consistent.quiescent_trace_iff, ?_⟩
  rw [labels]
  refine ⟨passed_nil story, ?_, ?_, ?_⟩
  · intro count record label listed under
    obtain ⟨moment, here, fired⟩ := exists_moment_of_record listed
    obtain ⟨before, after, step⟩ := Engine.exists_step_of_moment here
    have guided : story[passed story (firedIn (moments.take count))]? = some label := by
      rwa [firedIn, List.map_take]
    have taken : (Engine.ofNet net).step? (some label)
        (stateAt (RunState.initial net) moments count) before =
          some (moment.arbitration, moment.state, after) := by
      rw [← guided]
      exact step
    have sources : (stateAt (RunState.initial net) moments count).fired.toSet =
        net.sourcesIn (trace.steps.take count) := path.fired_eq_sourcesIn count
    rw [firedIn_take_succ here, ← sources, ← fired]
    exact consistent.passesOrWaits under taken fired
  · intro count record listed ended
    obtain ⟨moment, here, -⟩ := exists_moment_of_record listed
    rw [firedIn_take_succ here, passed_concat]
    refine Nat.add_eq_left.2 (if_neg ?_)
    rintro ⟨label, under, -⟩
    cases ended.symm.trans under
  · have all : trace.steps.length = (firedIn moments).length := by
      rw [← labels, List.length_map]
    rw [all, List.take_length]
    exact Engine.progress_courseFrom

/-! ## The warning about a story -/

theorem level_of_mem_stepsLogFrom {seed : UInt64} {number : Nat} {moments : List Moment}
    {record : LogRecord} (made : record ∈ stepsLogFrom seed number moments) :
    record.level = .debug := by
  induction moments generalizing number with
  | nil => cases made
  | cons moment moments ih =>
    simp only [stepsLogFrom, Arbitration.log, List.mem_append, List.mem_map, List.mem_cons] at made
    obtain ⟨_, -, rfl⟩ | rfl | later := made
    · rfl
    · rfl
    · exact ih later

/-- A course makes no warnings. -/
theorem Course.level_of_mem_log {seed : UInt64} {course : Course} {record : LogRecord}
    (made : record ∈ course.log seed) : record.level = .debug := by
  rw [Course.log, List.mem_append] at made
  rcases made with during | ending
  · exact level_of_mem_stepsLogFrom during
  · split at ending
    · cases List.mem_singleton.1 ending
      rfl
    · cases ending

/-- What is said about a story that has stalled: it names the label under the cursor. -/
def stallText (story : List String) (cursor : Nat) (stalled : cursor < story.length) : String :=
  "story stalled at '" ++ story[cursor] ++ "' (" ++ toString cursor ++ " of " ++
    toString story.length ++ " labels fired)"

/-- There is a label to be named whenever a story has stalled. -/
theorem stallLog_eq (seed : UInt64) (story : List String) (progress : Nat) :
    stallLog seed story progress =
      if stalled : progress < story.length then
        [.warn (aboutSeed seed (stallText story progress stalled))]
      else [] := by
  unfold stallLog
  by_cases stalled : progress < story.length
  · rw [dif_pos stalled, List.getElem?_eq_getElem stalled]
    rfl
  · rw [dif_neg stalled, List.getElem?_eq_none (Nat.not_lt.1 stalled)]

/-- The only warning of a run is that about its story. -/
theorem warnings_of_runStory {net : Net} {budget : Nat} {seed : UInt64} {story : List String}
    {trace : Trace} {log : Log} (told : runStory net budget seed story = .ok (trace, log)) :
    (log.filter fun record => record.level = .warn) =
      stallLog seed story trace.storyProgress := by
  unfold runStory at told
  split at told
  · cases told
  · cases told
    have quiet : (((Engine.ofNet net).course budget seed story).log seed).filter
        (fun record => record.level = .warn) = [] :=
      List.filter_eq_nil_iff.2 fun record made => by simp [Course.level_of_mem_log made]
    rw [List.filter_append, quiet, List.nil_append, List.filter_eq_self.2]
    · rfl
    · intro record made
      rw [stallLog_eq] at made
      split at made
      · cases List.mem_singleton.1 made
        rfl
      · cases made

/-- **A run tells its story label by label, as far as any order of steps allows.** -/
theorem runStory_tells {net : Net} (valid : net.validate = .ok ()) {budget : Nat}
    (positive : 0 < budget) (seed : UInt64) (story : List String) :
    ∃ trace log, runStory net budget seed story = .ok (trace, log) ∧
      (∃ markings cursor, net.IsRun budget markings trace ∧
        net.Tells story markings cursor trace) ∧
      IsGreatest {count | count ≤ story.length ∧
        OccursIn (story.take count) (trace.steps.map StepRecord.firedLabels)}
          trace.storyProgress ∧
      trace.storyProgress ≤ min story.length trace.steps.length ∧
      (log.filter fun record => record.level = .warn) =
        if stalled : trace.storyProgress < story.length then
          [.warn (aboutSeed seed (stallText story trace.storyProgress stalled))]
        else [] := by
  have consistent := Net.validate_eq_ok_iff.1 valid
  obtain ⟨log, told⟩ := runStory_eq_ok net positive seed story
  obtain ⟨markings, isRun, tells⟩ := consistent.exists_tells budget seed story
  have progress := tells.storyProgress_eq
  rw [List.take_of_length_le (List.length_map _).le] at progress
  have warnings := (warnings_of_runStory told).trans (stallLog_eq seed story _)
  refine ⟨_, log, told, ⟨markings, _, isRun, tells⟩, ?_, ?_, warnings⟩
  · rw [progress]
    exact isGreatest_passed story _
  · rw [progress]
    refine Nat.le_min.2 ⟨passed_le_length story _, ?_⟩
    exact (passed_le_length_fired story _).trans (List.length_map _).le

/-- The rivals tell two labels of a story and then wait for a label that no bus has. -/
theorem rivals_tell :
    ∃ trace log, runStory Net.rivals 5 7 ["spring", "left", "up", "right"] = .ok (trace, log) ∧
      (∃ markings cursor, Net.rivals.IsRun 5 markings trace ∧
        Net.rivals.Tells ["spring", "left", "up", "right"] markings cursor trace) ∧
      IsGreatest {count | count ≤ 4 ∧ OccursIn (["spring", "left", "up", "right"].take count)
        (trace.steps.map StepRecord.firedLabels)} 2 ∧
      (log.filter fun record => record.level = .warn) =
        [.warn "seed 7: story stalled at 'up' (2 of 4 labels fired)"] := by
  obtain ⟨trace, log, told, tells, greatest, -, warnings⟩ :=
    runStory_tells Net.rivals_validate (Nat.zero_lt_succ 4) 7 ["spring", "left", "up", "right"]
  have two : trace.storyProgress = 2 := view_eq_of_eq_ok told Trace.storyProgress (by decide +kernel)
  rw [two] at greatest
  rw [dif_pos (two.trans_lt (by decide))] at warnings
  have text : aboutSeed 7 (stallText ["spring", "left", "up", "right"] 2 (by decide)) =
      "seed 7: story stalled at 'up' (2 of 4 labels fired)" := by decide +kernel
  refine ⟨trace, log, told, tells, greatest, warnings.trans ?_⟩
  simp only [two, text]

end EventNet
