import EventNet.Proofs.Run.Path

/-!
# A trace is a run

The record of a run speaks of a sequence of markings that it does not contain: it has
snapshots, which forget places of one name, and no fired sources at all. `Net.IsRun` says
that a trace describes a given sequence of markings, from the initial marking on, with a
maximal choice and its effect between any two of them, and that its final flag is right
about the last. The trace of every run describes such a sequence (`run_isRun`).

The flag of a trace has two origins: a run that has stopped is known to be quiescent, and
one that has used up its budget is looked at. Both say the same, that no transition is
enabled after all the sources in the records have fired
(`Net.Consistent.quiescent_trace_iff`).
-/

set_option autoImplicit false

namespace EventNet

/-! ## Records of moments -/

theorem length_recordsFrom (net : Net) (number : Nat) (moments : List Moment) :
    (recordsFrom net number moments).length = moments.length := by
  induction moments generalizing number with
  | nil => rfl
  | cons moment moments ih => exact congrArg (· + 1) (ih (number + 1))

theorem getElem?_recordsFrom (net : Net) (number : Nat) (moments : List Moment) (count : Nat) :
    (recordsFrom net number moments)[count]? =
      moments[count]?.map fun moment =>
        { step := number + count
          firedLabels := moment.step.labels
          firedInstances := moment.step.instances
          marking := moment.state.marking.snapshot net } := by
  induction moments generalizing number count with
  | nil => rfl
  | cons moment moments ih =>
    cases count with
    | zero => rfl
    | succ count =>
      rw [recordsFrom, List.getElem?_cons_succ, List.getElem?_cons_succ, ih,
        Nat.add_right_comm, Nat.add_assoc]

theorem take_recordsFrom (net : Net) (number count : Nat) (moments : List Moment) :
    (recordsFrom net number moments).take count = recordsFrom net number (moments.take count) := by
  induction moments generalizing number count with
  | nil => simp [recordsFrom]
  | cons moment moments ih =>
    cases count with
    | zero => rfl
    | succ count => simp only [recordsFrom, List.take_succ_cons, ih]

theorem exists_mem_recordsFrom {net : Net} {number : Nat} {moments : List Moment}
    {transition : TransitionId} :
    (∃ record ∈ recordsFrom net number moments, transition ∈ record.firedInstances) ↔
      ∃ moment ∈ moments, transition ∈ moment.step.instances := by
  induction moments generalizing number with
  | nil => simp [recordsFrom]
  | cons moment moments ih =>
    rw [recordsFrom, List.exists_mem_cons_iff, List.exists_mem_cons_iff, ih]
    rfl

namespace Net

/-- The sources among the instances of records. -/
def sourcesIn (net : Net) (records : List StepRecord) : Set TransitionId :=
  {transition | net.IsSource transition ∧ ∃ record ∈ records, transition ∈ record.firedInstances}

theorem mem_sourcesIn_recordsFrom {net : Net} {number : Nat} {moments : List Moment}
    {transition : TransitionId} :
    transition ∈ net.sourcesIn (recordsFrom net number moments) ↔
      net.IsSource transition ∧ ∃ moment ∈ moments, transition ∈ moment.step.instances := by
  rw [sourcesIn, Set.mem_ofPred_eq, exists_mem_recordsFrom]

/-! ## Traces that describe a run -/

/-- The record of a step that leads from one marking to another after some sources have
fired. -/
structure Describes (net : Net) (record : StepRecord) (number : Nat) (fired : Set TransitionId)
    (before after : Marking) : Prop where
  step_eq : record.step = number
  instances_ne_nil : record.firedInstances ≠ []
  choice : net.MaximalStep before fired
    { labels := record.firedLabels, instances := record.firedInstances }
  after_eq : after = net.effect record.firedInstances before
  marking_eq : record.marking = after.snapshot net

/-- The trace describes a run of a net through markings, within a budget of steps. -/
structure IsRun (net : Net) (budget : Nat) (markings : Nat → Marking) (trace : Trace) :
    Prop where
  start_eq : markings 0 = Marking.initial net
  length_le : trace.steps.length ≤ budget
  describes : ∀ (count : Nat) (record : StepRecord), trace.steps[count]? = some record →
    net.Describes record (count + 1) (net.sourcesIn (trace.steps.take count))
      (markings count) (markings (count + 1))
  final_eq : trace.finalMarking = (markings trace.steps.length).snapshot net
  quiescent_of_lt : trace.steps.length < budget → trace.quiescent = true
  quiescent_iff : trace.quiescent = true ↔ ∀ transition,
    ¬net.Enabled (markings trace.steps.length) (net.sourcesIn trace.steps) transition

variable {net : Net} {budget : Nat} {seed : UInt64} {story : List String}

/-- The flag of a trace is right, whether the run has stopped or used up its budget. -/
theorem Consistent.quiescent_trace_iff (consistent : net.Consistent) :
    (((Engine.ofNet net).course budget seed story).trace (Engine.ofNet net) seed).quiescent =
        true ↔
      ∀ transition, ¬net.Enabled ((Engine.ofNet net).course budget seed story).final.marking
        ((Engine.ofNet net).course budget seed story).final.fired.toSet transition := by
  rw [Course.trace, Bool.or_eq_true, consistent.isQuiescent_iff]
  constructor
  · rintro (stopped | quiescent)
    · exact consistent.not_enabled_of_stopped stopped
    · exact quiescent
  · exact .inr

end Net

/-! ## Courses as traces -/

namespace Net.Path

variable {net : Net} {final : RunState} {moments : List Moment}

/-- On a path from the initial state the sources that have fired are those of the records
so far. -/
theorem fired_eq_sourcesIn (path : net.Path (RunState.initial net) moments final) (count : Nat) :
    (stateAt (RunState.initial net) moments count).fired.toSet =
      net.sourcesIn ((recordsFrom net 1 moments).take count) := by
  ext transition
  rw [path.mem_fired_stateAt, take_recordsFrom, mem_sourcesIn_recordsFrom]
  simp [RunState.initial, FiredSources.toSet_empty]

/-- The records of a path from the initial state describe its moves. -/
theorem describes_recordsFrom (path : net.Path (RunState.initial net) moments final)
    {count : Nat} {record : StepRecord}
    (found : (recordsFrom net 1 moments)[count]? = some record) :
    net.Describes record (count + 1) (net.sourcesIn ((recordsFrom net 1 moments).take count))
      (stateAt (RunState.initial net) moments count).marking
      (stateAt (RunState.initial net) moments (count + 1)).marking := by
  rw [getElem?_recordsFrom] at found
  obtain ⟨moment, atCount, rfl⟩ := Option.map_eq_some_iff.1 found
  obtain ⟨move, next⟩ := path.move_at atCount
  rw [← path.fired_eq_sourcesIn, next]
  exact ⟨Nat.add_comm 1 count, move.choice.instances_ne_nil, move.choice, move.marking_eq, rfl⟩

/-- A course along a path from the initial state describes a run, if it is within the
budget, has stopped unless it uses all of it, and has the right flag. -/
theorem isRun {course : Course} {budget : Nat} {seed : UInt64}
    (path : net.Path (RunState.initial net) course.moments course.final)
    (within : course.moments.length ≤ budget)
    (ended : course.moments.length < budget → course.stopped = true)
    (flag : (course.trace (Engine.ofNet net) seed).quiescent = true ↔
      ∀ transition, ¬net.Enabled course.final.marking course.final.fired.toSet transition) :
    net.IsRun budget (fun count => (stateAt (RunState.initial net) course.moments count).marking)
      (course.trace (Engine.ofNet net) seed) := by
  have length : (course.trace (Engine.ofNet net) seed).steps.length = course.moments.length :=
    length_recordsFrom net 1 course.moments
  have last : stateAt (RunState.initial net) course.moments
      (course.trace (Engine.ofNet net) seed).steps.length = course.final := by
    rw [length, path.stateAt_length]
  have fired : course.final.fired.toSet =
      net.sourcesIn (course.trace (Engine.ofNet net) seed).steps := by
    have recorded := path.fired_eq_sourcesIn (course.trace (Engine.ofNet net) seed).steps.length
    rw [last] at recorded
    exact recorded.trans (congrArg net.sourcesIn List.take_length)
  refine ⟨?_, ?_, ?_, ?_, ?_, ?_⟩
  · exact congrArg RunState.marking (stateAt_zero _ _)
  · exact length.trans_le within
  · exact fun count record found => path.describes_recordsFrom found
  · rw [last]
    rfl
  · intro short
    exact Bool.or_eq_true_iff.2 (.inl (ended (length.symm.trans_lt short)))
  · rw [flag, fired, last]

end Net.Path

/-- **The trace of a run describes a run.** -/
theorem Net.Consistent.isRun_trace {net : Net} (consistent : net.Consistent) (budget : Nat)
    (seed : UInt64) (story : List String) :
    ∃ markings, net.IsRun budget markings
      (((Engine.ofNet net).course budget seed story).trace (Engine.ofNet net) seed) := by
  have path : net.Path (RunState.initial net)
      ((Engine.ofNet net).course budget seed story).moments
      ((Engine.ofNet net).course budget seed story).final :=
    consistent.path_courseFrom (Marking.length_initial net)
  exact ⟨_, path.isRun Engine.length_moments_courseFrom Engine.stopped_of_lt
    consistent.quiescent_trace_iff⟩

/-- A positive budget is all that a run needs. -/
theorem runStory_eq_ok (net : Net) {budget : Nat} (positive : 0 < budget) (seed : UInt64)
    (story : List String) :
    ∃ log, runStory net budget seed story =
      .ok (((Engine.ofNet net).course budget seed story).trace (Engine.ofNet net) seed, log) := by
  unfold runStory
  rw [if_neg (Nat.ne_of_gt positive)]
  exact ⟨_, rfl⟩

/-- **Every run is genuine**: with a positive budget a run of a net, with or without a
story, succeeds, and there are markings through which its trace describes a run. -/
theorem run_isRun {net : Net} (valid : net.validate = .ok ()) {budget : Nat}
    (positive : 0 < budget) (seed : UInt64) (story : List String) :
    (∃ trace log, runTrial net budget seed = .ok (trace, log) ∧
      ∃ markings, net.IsRun budget markings trace) ∧
    ∃ trace log, runStory net budget seed story = .ok (trace, log) ∧
      ∃ markings, net.IsRun budget markings trace := by
  have consistent := Net.validate_eq_ok_iff.1 valid
  obtain ⟨trialLog, trial⟩ := runStory_eq_ok net positive seed []
  obtain ⟨storyLog, told⟩ := runStory_eq_ok net positive seed story
  exact ⟨⟨_, trialLog, trial, consistent.isRun_trace budget seed []⟩,
    ⟨_, storyLog, told, consistent.isRun_trace budget seed story⟩⟩

/-- What can be seen by running something holds of the result that has come out. -/
theorem view_eq_of_eq_ok {ε α β : Type} {run : Except ε (α × Log)} {result : α} {log : Log}
    (came : run = .ok (result, log)) (view : α → β) {value : β}
    (known : run.toOption.map (fun outcome => view outcome.1) = some value) :
    view result = value := by
  rw [came] at known
  exact Option.some.inj known

/-- The rivals run for a budget of three steps, also with a story that prefers one of them. They
come to rest after two. -/
theorem rivals_isRun :
    (∃ trace log, runTrial Net.rivals 3 7 = .ok (trace, log) ∧
      (∃ markings, Net.rivals.IsRun 3 markings trace) ∧
        trace.steps.map StepRecord.firedLabels = [["right", "spring"], ["right"]]) ∧
    ∃ trace log, runStory Net.rivals 3 7 ["left"] = .ok (trace, log) ∧
      (∃ markings, Net.rivals.IsRun 3 markings trace) ∧
        trace.steps.map StepRecord.firedLabels = [["left", "spring"], ["right"]] := by
  obtain ⟨⟨trial, trialLog, ran, isRun⟩, ⟨trace, log, told, storyIsRun⟩⟩ :=
    run_isRun Net.rivals_validate (show 0 < 3 by decide) 7 ["left"]
  refine ⟨⟨trial, trialLog, ran, isRun, ?_⟩, trace, log, told, storyIsRun, ?_⟩
  · exact view_eq_of_eq_ok ran (fun trace => trace.steps.map _) (by decide +kernel)
  · exact view_eq_of_eq_ok told (fun trace => trace.steps.map _) (by decide +kernel)

end EventNet
