import EventNet.Proofs.Run.Story

/-!
# What a story can influence

A run knows of its story only the labels it has come to: those it has passed, and the one it
waits for. What stands behind them in the story has no influence on the run
(`Engine.courseFrom_congr_story`).

To wait for a label that never fires is no influence either. The label was never enabled, and
to prefer what is not enabled changes nothing and draws nothing. So a run that has passed no
label is the run without a story (`Net.Consistent.courseFrom_of_unpassed`), and it has passed
none exactly if the first label was never enabled (`Net.Tells.storyProgress_eq_zero_iff`).
`runStory_influence` says all this of the traces.
-/

set_option autoImplicit false

namespace EventNet

open EventNet.Random (WordSource)

/-! ## Labels that have not been reached -/

namespace Engine

variable {σ : Type} [WordSource σ] {engine : Engine} {label : String} {story : List String}
variable {state : RunState} {source : σ} {budget : Nat}

/-- The progress of a course whose first step fires the first label. -/
theorem progress_courseFrom_of_mem {arbitration : Arbitration} {after : RunState} {rest : σ}
    (taken : engine.step? (some label) state source = some (arbitration, after, rest))
    (fires : label ∈ arbitration.step.labels) :
    (engine.courseFrom (label :: story) state source (budget + 1)).progress =
      (engine.courseFrom story after rest budget).progress + 1 := by
  rw [courseFrom_of_step taken]
  simp only [advance_of_mem fires, List.length_cons]
  omega

/-- The progress of a course whose first step does not fire the first label. -/
theorem progress_courseFrom_of_not_mem {arbitration : Arbitration} {after : RunState} {rest : σ}
    (taken : engine.step? (some label) state source = some (arbitration, after, rest))
    (waits : label ∉ arbitration.step.labels) :
    (engine.courseFrom (label :: story) state source (budget + 1)).progress =
      (engine.courseFrom (label :: story) after rest budget).progress := by
  rw [courseFrom_of_step taken]
  simp only [advance_of_not_mem waits]
  omega

/-- **What stands behind the label that a story waits for has no influence.** -/
theorem courseFrom_congr_story {other : List String}
    (waiting : (engine.courseFrom story state source budget).progress < story.length)
    (agree : other.take ((engine.courseFrom story state source budget).progress + 1) =
      story.take ((engine.courseFrom story state source budget).progress + 1)) :
    engine.courseFrom other state source budget = engine.courseFrom story state source budget := by
  induction budget generalizing story other state source with
  | zero => rfl
  | succ budget ih =>
    obtain ⟨label, story, rfl⟩ := List.exists_cons_of_length_pos (Nat.zero_lt_of_lt waiting)
    obtain ⟨others, rfl⟩ : ∃ others, other = label :: others := by
      cases other with
      | nil => simp at agree
      | cons first others =>
        rw [List.take_succ_cons, List.take_succ_cons, List.cons.injEq] at agree
        exact ⟨others, by rw [agree.1]⟩
    cases taken : engine.step? (some label) state source with
    | none => rw [courseFrom_of_none taken, courseFrom_of_none taken]
    | some result =>
      obtain ⟨arbitration, after, rest⟩ := result
      by_cases fires : label ∈ arbitration.step.labels
      · rw [progress_courseFrom_of_mem taken fires] at waiting agree
        have same := ih (Nat.lt_of_succ_lt_succ waiting) (List.cons.inj agree).2
        rw [courseFrom_of_step taken, courseFrom_of_step taken]
        simp only [advance_of_mem fires, same, List.length_cons, Nat.add_sub_cancel_left]
      · rw [progress_courseFrom_of_not_mem taken fires] at waiting agree
        have same := ih waiting agree
        rw [courseFrom_of_step taken, courseFrom_of_step taken]
        simp only [advance_of_not_mem fires, same, Nat.sub_self]

end Engine

/-! ## Stories of which nothing has happened -/

/-- **A run that has passed no label of its story is the run without a story.** -/
theorem Net.Consistent.courseFrom_of_unpassed {σ : Type} [WordSource σ] {net : Net}
    (consistent : net.Consistent) {story : List String} {state : RunState} {source : σ}
    {budget : Nat}
    (unpassed : ((Engine.ofNet net).courseFrom story state source budget).progress = 0) :
    (Engine.ofNet net).courseFrom [] state source budget =
      (Engine.ofNet net).courseFrom story state source budget := by
  induction budget generalizing state source with
  | zero => rfl
  | succ budget ih =>
    cases story with
    | nil => rfl
    | cons label story =>
      cases taken : (Engine.ofNet net).step? (some label) state source with
      | none =>
        have without : (Engine.ofNet net).step? none state source = none :=
          Engine.step?_eq_none_iff.2 (Engine.step?_eq_none_iff.1 taken)
        rw [Engine.courseFrom_of_none without, Engine.courseFrom_of_none taken]
      | some result =>
        obtain ⟨arbitration, after, rest⟩ := result
        have waits : label ∉ arbitration.step.labels := fun fires => by
          rw [Engine.progress_courseFrom_of_mem taken fires] at unpassed
          exact Nat.succ_ne_zero _ unpassed
        -- had its bus been enabled, the label would have fired first
        have disabled : ¬net.BusEnabled state.marking state.fired.toSet label := fun enabled =>
          waits (List.mem_of_head? (consistent.head?_labels_of_step? taken enabled))
        have without : (Engine.ofNet net).step? none state source =
            some (arbitration, after, rest) :=
          (consistent.step?_of_disabled disabled).symm.trans taken
        rw [Engine.progress_courseFrom_of_not_mem taken waits] at unpassed
        have same := ih unpassed
        rw [Engine.courseFrom_of_step without, Engine.courseFrom_of_step taken]
        simp only [advance_of_not_mem waits, advance_nil, same, Nat.sub_self]

/-- The cursor never goes back. -/
theorem Net.Tells.cursor_mono {net : Net} {story : List String} {markings : Nat → Marking}
    {cursor : Nat → Nat} {trace : Trace} (tells : net.Tells story markings cursor trace)
    {count later : Nat} (le : count ≤ later) (within : later ≤ trace.steps.length) :
    cursor count ≤ cursor later := by
  induction later, le using Nat.le_induction with
  | base => exact Nat.le_refl _
  | succ later _ ih =>
    refine (ih (Nat.le_of_succ_le within)).trans ?_
    have listed := List.getElem?_eq_getElem within
    cases under : story[cursor later]? with
    | none => exact (tells.at_end later _ listed under).ge
    | some label =>
      have outcome := tells.at_label later _ label listed under
      by_cases fires : label ∈ trace.steps[later].firedLabels
      · exact (Nat.le_succ _).trans (outcome.passes fires).2.ge
      · exact (outcome.waits fires).ge

/-- A run has passed no label exactly if the first label was never enabled at the start of a
step, be it that there is no label or no bus of this name. -/
theorem Net.Tells.storyProgress_eq_zero_iff {net : Net} {story : List String}
    {markings : Nat → Marking} {cursor : Nat → Nat} {trace : Trace}
    (tells : net.Tells story markings cursor trace) :
    trace.storyProgress = 0 ↔ ∀ label, story.head? = some label → ∀ count < trace.steps.length,
      ¬net.BusEnabled (markings count) (net.sourcesIn (trace.steps.take count)) label := by
  rw [tells.storyProgress_eq]
  constructor
  · intro unpassed label first count inside enabled
    have behind : ∀ later ≤ trace.steps.length, cursor later ≤ cursor trace.steps.length :=
      fun later within => tells.cursor_mono within (Nat.le_refl _)
    have here : cursor count = 0 :=
      Nat.le_zero.1 (unpassed ▸ behind count (Nat.le_of_lt inside))
    have next : cursor (count + 1) = 0 := Nat.le_zero.1 (unpassed ▸ behind (count + 1) inside)
    have outcome := tells.at_label count _ label (List.getElem?_eq_getElem inside)
      (by rw [here, ← List.head?_eq_getElem?, first])
    have passes := (outcome.passes (outcome.fires_iff.2 enabled)).2
    exact Nat.succ_ne_zero _ (passes.symm.trans next)
  · intro never
    have start : ∀ count ≤ trace.steps.length, cursor count = 0 := by
      intro count within
      induction count with
      | zero => exact tells.cursor_zero
      | succ count ih =>
        have here := ih (Nat.le_of_succ_le within)
        have listed := List.getElem?_eq_getElem within
        cases first : story.head? with
        | none =>
          rw [tells.at_end count _ listed (by rw [here, ← List.head?_eq_getElem?, first]), here]
        | some label =>
          have outcome := tells.at_label count _ label listed
            (by rw [here, ← List.head?_eq_getElem?, first])
          rw [outcome.waits (mt outcome.fires_iff.1 (never label first count within)), here]
    exact start _ (Nat.le_refl _)

/-- **A story influences a run only through the labels that it has come to.** -/
theorem runStory_influence {net : Net} (valid : net.validate = .ok ()) {budget : Nat}
    (positive : 0 < budget) (seed : UInt64) (story : List String) :
    ∃ trace log, runStory net budget seed story = .ok (trace, log) ∧
      (trace.storyProgress < story.length → ∀ other : List String,
        other.take (trace.storyProgress + 1) = story.take (trace.storyProgress + 1) →
          ∃ otherLog, runStory net budget seed other = .ok (trace, otherLog)) ∧
      (trace.storyProgress = 0 → ∃ trialLog, runTrial net budget seed = .ok (trace, trialLog)) ∧
      ∃ markings, net.IsRun budget markings trace ∧
        (trace.storyProgress = 0 ↔
          ∀ label, story.head? = some label → ∀ count < trace.steps.length,
            ¬net.BusEnabled (markings count) (net.sourcesIn (trace.steps.take count)) label) := by
  have consistent := Net.validate_eq_ok_iff.1 valid
  obtain ⟨log, told⟩ := runStory_eq_ok net positive seed story
  obtain ⟨markings, isRun, tells⟩ := consistent.exists_tells budget seed story
  refine ⟨_, log, told, ?_, ?_, markings, isRun, tells.storyProgress_eq_zero_iff⟩
  · intro waiting other agree
    obtain ⟨otherLog, otherTold⟩ := runStory_eq_ok net positive seed other
    have same : (Engine.ofNet net).course budget seed other =
        (Engine.ofNet net).course budget seed story :=
      Engine.courseFrom_congr_story waiting agree
    exact ⟨otherLog, same ▸ otherTold⟩
  · intro unpassed
    obtain ⟨trialLog, trial⟩ := runStory_eq_ok net positive seed []
    have same : (Engine.ofNet net).course budget seed [] =
        (Engine.ofNet net).course budget seed story :=
      consistent.courseFrom_of_unpassed unpassed
    exact ⟨trialLog, same ▸ trial⟩

/-- The rivals do not come to the fourth label of this story, and no bus has the third one. A
story of the third label alone changes nothing. -/
theorem rivals_influence :
    (∃ trace log otherLog,
      runStory Net.rivals 5 7 ["spring", "left", "up", "right"] = .ok (trace, log) ∧
        runStory Net.rivals 5 7 ["spring", "left", "up", "left"] = .ok (trace, otherLog) ∧
          trace.steps.map StepRecord.firedLabels = [["spring", "right"], ["left"]]) ∧
    ∃ trace log trialLog, runStory Net.rivals 5 7 ["up"] = .ok (trace, log) ∧
      runTrial Net.rivals 5 7 = .ok (trace, trialLog) ∧
        trace.steps.map StepRecord.firedLabels = [["right", "spring"], ["right"]] := by
  constructor
  · obtain ⟨trace, log, told, unread, -⟩ := runStory_influence Net.rivals_validate
      (Nat.zero_lt_succ 4) 7 ["spring", "left", "up", "right"]
    have two : trace.storyProgress = 2 :=
      view_eq_of_eq_ok told Trace.storyProgress (by decide +kernel)
    obtain ⟨otherLog, other⟩ := unread (two.trans_lt (by decide)) ["spring", "left", "up", "left"]
      (by rw [two]; rfl)
    refine ⟨trace, log, otherLog, told, other, ?_⟩
    exact view_eq_of_eq_ok told (fun trace => trace.steps.map _) (by decide +kernel)
  · obtain ⟨trace, log, told, -, unheard, -⟩ := runStory_influence Net.rivals_validate
      (Nat.zero_lt_succ 4) 7 ["up"]
    have none : trace.storyProgress = 0 :=
      view_eq_of_eq_ok told Trace.storyProgress (by decide +kernel)
    obtain ⟨trialLog, trial⟩ := unheard none
    refine ⟨trace, log, trialLog, told, trial, ?_⟩
    exact view_eq_of_eq_ok told (fun trace => trace.steps.map _) (by decide +kernel)

end EventNet
