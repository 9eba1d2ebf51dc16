import EventNet.Proofs.Run.Trace

/-!
# Runs with a larger budget

A run that has used up its budget can be taken up again: a course with a budget of
`budget + more` steps is the course with `budget` steps, followed by the course with `more`
steps from where the first one paused, with what is left of the story and with the source
as it is by then (`Engine.courseFrom_add`).

So a larger budget only adds records at the end of a trace, and labels of the story that
fire in them. Where nothing is enabled it adds nothing, and the two traces are equal: what
the shorter run finds out by looking at its last state, the longer one finds out when no
further step is taken (`runStory_budget_le`).
-/

set_option autoImplicit false

namespace EventNet

open EventNet.Random (WordSource)

/-! ## Courses that are taken up again -/

/-- Where a course pauses: the rest of the story, the state, and the source of words. -/
structure Pause (σ : Type) where
  story : List String
  state : RunState
  source : σ

/-- The course of two parts, of which the second takes up the first. -/
def Course.followedBy (first second : Course) : Course where
  moments := first.moments ++ second.moments
  final := second.final
  progress := first.progress + second.progress
  stopped := first.stopped || second.stopped

namespace Engine

variable {σ : Type} [WordSource σ]

/-- Where the course from a pause on has come to when its budget is used up. -/
def pauseAfter (engine : Engine) (pause : Pause σ) : (budget : Nat) → Pause σ
  | 0 => pause
  | budget + 1 =>
    match engine.step? pause.story.head? pause.state pause.source with
    | none => pause
    | some (arbitration, state, source) =>
      engine.pauseAfter { story := advance arbitration.step.labels pause.story, state, source }
        budget

/-- The course from a pause on. -/
def resume (engine : Engine) (pause : Pause σ) (budget : Nat) : Course :=
  engine.courseFrom pause.story pause.state pause.source budget

variable {engine : Engine} {pause : Pause σ}

theorem pauseAfter_of_none (none : engine.step? pause.story.head? pause.state pause.source = none)
    (budget : Nat) : engine.pauseAfter pause budget = pause := by
  cases budget with
  | zero => rfl
  | succ budget => simp only [pauseAfter, none]

/-- Where no bus is enabled, a course has no moments. -/
theorem resume_of_rest (rests : engine.enabledBuses pause.state.marking pause.state.fired = [])
    (budget : Nat) :
    (engine.resume pause budget).moments = [] ∧
      (engine.resume pause budget).final = pause.state ∧
        (engine.resume pause budget).progress = 0 := by
  cases budget with
  | zero => exact ⟨rfl, rfl, rfl⟩
  | succ budget =>
    have none : engine.step? pause.story.head? pause.state pause.source = none :=
      step?_eq_none_iff.2 rests
    rw [resume, courseFrom_of_none none]
    exact ⟨rfl, rfl, rfl⟩

theorem state_pauseAfter (budget : Nat) :
    (engine.pauseAfter pause budget).state = (engine.resume pause budget).final := by
  induction budget generalizing pause with
  | zero => rfl
  | succ budget ih =>
    cases taken : engine.step? pause.story.head? pause.state pause.source with
    | none => rw [pauseAfter_of_none taken, resume, courseFrom_of_none taken]
    | some result =>
      rw [resume, courseFrom_of_step taken]
      simp only [pauseAfter, taken]
      exact ih

/-- **A course that pauses can be taken up again.** -/
theorem courseFrom_add (pause : Pause σ) (budget more : Nat) :
    engine.resume pause (budget + more) =
      (engine.resume pause budget).followedBy
        (engine.resume (engine.pauseAfter pause budget) more) := by
  induction budget generalizing pause with
  | zero => simp [resume, courseFrom, pauseAfter, Course.followedBy]
  | succ budget ih =>
    rw [Nat.succ_add]
    cases taken : engine.step? pause.story.head? pause.state pause.source with
    | none =>
      obtain ⟨moments, final, progress⟩ := resume_of_rest (step?_eq_none_iff.1 taken) more
      rw [pauseAfter_of_none taken]
      simp only [Course.followedBy, moments, final, progress]
      simp only [resume, courseFrom_of_none taken, List.append_nil, Nat.add_zero, Bool.true_or]
    | some result =>
      have rest := ih
        { story := advance result.1.step.labels pause.story, state := result.2.1,
          source := result.2.2 }
      simp only [resume] at rest ⊢
      simp only [courseFrom_of_step taken, rest, pauseAfter, taken, Course.followedBy,
        List.cons_append, Nat.add_assoc]

/-- The moments within a smaller budget are the first ones. -/
theorem take_moments_resume (pause : Pause σ) (budget more : Nat) :
    (engine.resume pause (budget + more)).moments.take budget =
      (engine.resume pause budget).moments := by
  have within : (engine.resume pause budget).moments.length ≤ budget := length_moments_courseFrom
  rw [courseFrom_add, Course.followedBy]
  -- a course that is shorter than its budget has come to rest, and nothing follows
  rcases Nat.lt_or_eq_of_le within with short | full
  · have rests := enabledBuses_of_stopped (stopped_of_lt short)
    rw [← resume, ← state_pauseAfter] at rests
    rw [(resume_of_rest rests more).1, List.append_nil, List.take_of_length_le within]
  · exact List.take_left' full

/-- A course ends in the state of its last moment, or where it starts. -/
theorem final_courseFrom {story : List String} {state : RunState} {source : σ} {budget : Nat} :
    (engine.courseFrom story state source budget).final =
      ((engine.courseFrom story state source budget).moments.getLast?.map Moment.state).getD
        state := by
  induction budget generalizing story state source with
  | zero => rfl
  | succ budget ih =>
    cases taken : engine.step? story.head? state source with
    | none => rw [courseFrom_of_none taken]; rfl
    | some result =>
      rw [courseFrom_of_step taken]
      simp only [List.getLast?_cons, Option.map_some, Option.getD_some]
      rw [ih]
      cases (engine.courseFrom (advance result.1.step.labels story) result.2.1 result.2.2
        budget).moments.getLast? <;> rfl

end Engine

/-! ## Traces -/

namespace Net

/-- The marking by name after records: that of the last of them, or the initial one. -/
def snapshotAfter (net : Net) (records : List StepRecord) : Snapshot :=
  (records.getLast?.map StepRecord.marking).getD ((Marking.initial net).snapshot net)

/-- How the trace of a run with a budget begins the trace of a run with a larger one. -/
structure Begins (net : Net) (budget : Nat) (short long : Trace) : Prop where
  steps_eq : short.steps = long.steps.take budget
  finalMarking_eq : short.finalMarking = net.snapshotAfter (long.steps.take budget)
  storyProgress_le : short.storyProgress ≤ long.storyProgress
  /-- What has come to rest goes on in no other way. -/
  eq_of_quiescent : short.quiescent = true → short = long

end Net

theorem marking_getLast?_recordsFrom (net : Net) (number : Nat) (moments : List Moment) :
    (recordsFrom net number moments).getLast?.map StepRecord.marking =
      moments.getLast?.map fun moment => moment.state.marking.snapshot net := by
  rw [List.getLast?_eq_getElem?, List.getLast?_eq_getElem?, length_recordsFrom,
    getElem?_recordsFrom, Option.map_map]
  rfl

/-- The final marking of a trace is the marking after its records. -/
theorem Engine.finalMarking_trace (net : Net) (budget : Nat) (seed : UInt64)
    (story : List String) :
    let trace := ((Engine.ofNet net).course budget seed story).trace (Engine.ofNet net) seed
    trace.finalMarking = net.snapshotAfter trace.steps := by
  intro trace
  let shown := fun state : RunState => state.marking.snapshot net
  let moments := ((Engine.ofNet net).course budget seed story).moments
  have records : trace.steps.getLast?.map StepRecord.marking =
      moments.getLast?.map fun moment => shown moment.state :=
    marking_getLast?_recordsFrom net 1 moments
  calc trace.finalMarking
      = shown ((moments.getLast?.map Moment.state).getD (RunState.initial net)) :=
        congrArg shown final_courseFrom
    _ = ((moments.getLast?.map Moment.state).map shown).getD (shown (RunState.initial net)) :=
        (Option.getD_map shown _ _).symm
    _ = net.snapshotAfter trace.steps := by
        rw [Option.map_map, Net.snapshotAfter, records]
        rfl

/-- **The trace of a run begins the trace of every run with a larger budget.** -/
theorem Net.Consistent.begins {net : Net} (consistent : net.Consistent) (budget more : Nat)
    (seed : UInt64) (story : List String) :
    net.Begins budget
      (((Engine.ofNet net).course budget seed story).trace (Engine.ofNet net) seed)
      (((Engine.ofNet net).course (budget + more) seed story).trace (Engine.ofNet net) seed) := by
  let start : Pause Random.ChaCha :=
    { story, state := RunState.initial net, source := Random.ChaCha.ofSeed seed }
  let later := (Engine.ofNet net).pauseAfter start budget
  have whole : (Engine.ofNet net).course (budget + more) seed story =
      ((Engine.ofNet net).course budget seed story).followedBy
        ((Engine.ofNet net).resume later more) :=
    Engine.courseFrom_add start budget more
  have steps : (((Engine.ofNet net).course (budget + more) seed story).trace
      (Engine.ofNet net) seed).steps.take budget = recordsFrom net 1 _ :=
    (take_recordsFrom net 1 budget _).trans
      (congrArg (recordsFrom net 1) (Engine.take_moments_resume start budget more))
  refine ⟨steps.symm, ?_, ?_, ?_⟩
  · rw [Engine.finalMarking_trace, steps]
    rfl
  · rw [whole]
    exact Nat.le_add_right _ _
  · intro quiescent
    have rests : (Engine.ofNet net).enabledBuses later.state.marking later.state.fired = [] := by
      rw [Engine.state_pauseAfter]
      exact consistent.enabledBuses_eq_nil_iff.2 (consistent.quiescent_trace_iff.1 quiescent)
    obtain ⟨moments, final, progress⟩ := Engine.resume_of_rest rests more
    have state : later.state = ((Engine.ofNet net).course budget seed story).final :=
      Engine.state_pauseAfter budget
    have rested : (Engine.ofNet net).isQuiescent
        ((Engine.ofNet net).course budget seed story).final.marking
        ((Engine.ofNet net).course budget seed story).final.fired = true :=
      consistent.isQuiescent_iff.2 (consistent.quiescent_trace_iff.1 quiescent)
    rw [whole]
    simp only [Course.trace, Course.followedBy, moments, final, progress, state, rested,
      List.append_nil, Nat.add_zero, Bool.or_true]

/-- **A larger budget only goes on where a smaller one ends.** -/
theorem runStory_budget_le {net : Net} (valid : net.validate = .ok ()) {budget larger : Nat}
    (positive : 0 < budget) (le : budget ≤ larger) (seed : UInt64) (story : List String) :
    ∃ short shortLog long longLog, runStory net budget seed story = .ok (short, shortLog) ∧
      runStory net larger seed story = .ok (long, longLog) ∧ net.Begins budget short long := by
  obtain ⟨more, rfl⟩ := Nat.exists_eq_add_of_le le
  obtain ⟨shortLog, short⟩ := runStory_eq_ok net positive seed story
  obtain ⟨longLog, long⟩ := runStory_eq_ok net (Nat.add_pos_left positive more) seed story
  exact ⟨_, shortLog, _, longLog, short, long,
    (Net.validate_eq_ok_iff.1 valid).begins budget more seed story⟩

/-- The rivals fire twice. With a budget of one step the first record is there, and with two
steps all is there that there is with five. -/
theorem rivals_budget_le :
    (∃ short shortLog long longLog, runStory Net.rivals 1 7 ["right"] = .ok (short, shortLog) ∧
      runStory Net.rivals 5 7 ["right"] = .ok (long, longLog) ∧
      Net.rivals.Begins 1 short long ∧
      short.steps.map StepRecord.firedLabels = [["right", "spring"]] ∧
      long.steps.map StepRecord.firedLabels = [["right", "spring"], ["right"]]) ∧
    ∃ trace shortLog longLog, runStory Net.rivals 2 7 ["right"] = .ok (trace, shortLog) ∧
      runStory Net.rivals 5 7 ["right"] = .ok (trace, longLog) := by
  constructor
  · obtain ⟨short, shortLog, long, longLog, shortTold, longTold, begins⟩ :=
      runStory_budget_le Net.rivals_validate Nat.one_pos (show 1 ≤ 5 by decide) 7 ["right"]
    refine ⟨short, shortLog, long, longLog, shortTold, longTold, begins, ?_, ?_⟩
    · exact view_eq_of_eq_ok shortTold (fun trace => trace.steps.map _) (by decide +kernel)
    · exact view_eq_of_eq_ok longTold (fun trace => trace.steps.map _) (by decide +kernel)
  · obtain ⟨short, shortLog, long, longLog, shortTold, longTold, begins⟩ :=
      runStory_budget_le Net.rivals_validate Nat.two_pos (show 2 ≤ 5 by decide) 7 ["right"]
    have rested : short.quiescent = true :=
      view_eq_of_eq_ok shortTold Trace.quiescent (by decide +kernel)
    have same : short = long := begins.eq_of_quiescent rested
    exact ⟨long, shortLog, longLog, same ▸ shortTold, longTold⟩

end EventNet
