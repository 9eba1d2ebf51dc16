import EventNet.Program.Command
import EventNet.Proofs.Program.System

/-!
# Rejected invocations

An invocation is rejected when the file for its settings gives none, when its source text cannot
be read or has anything wrong with it, or when what it asks for comes down to no runs or no
steps (`Invocation.Rejected`). All of this can be told from the files before the program runs.

The program finds it out step by step. Loading the settings and the net only looks at files and
makes records, whether it ends well or not, and a batch or a run without steps fails right at
its start. So in any system a rejected invocation fails before anything is written or printed
(`System.fails_perform`). Otherwise the mode takes over from a state in which all is as it was
(`System.exists_run_perform`), and it fails only when it cannot write one of its files
(`failsOnly_mode`). A single run writes none.
-/

set_option autoImplicit false

namespace EventNet

variable {σ : Type}

/-- The settings that the files give for a path: those of the file, or the standard ones if
there is nothing. There are none if what is there cannot be read or holds no settings. -/
def View.settingsAt (view : View σ) (files : view.Files) (path : String) : Option Settings :=
  if view.isPresent files path then
    match view.read files path with
    | .error _ => none
    | .ok text => Settings.ofText? text
  else some {}

/-- A mode comes down to no runs or no steps. What is given goes before the settings. -/
def Mode.IsIdle (settings : Settings) : Mode → Prop
  | .batch runs steps _ _ _ => runs.getD settings.runs = 0 ∨ steps.getD settings.steps = 0
  | .simulate steps _ _ => steps.getD settings.simulateSteps = 0
  | .exportNet _ _ => False

/-- Why an invocation is rejected, as far as the files tell. -/
inductive Invocation.Rejected (invocation : Invocation) (view : View σ) (files : view.Files) :
    Prop where
  /-- The file for the settings gives none. -/
  | settings (none : view.settingsAt files (invocation.config.getD defaultConfig) = none)
  /-- The source text cannot be read. -/
  | unreadable {error : FileError} (failed : view.read files invocation.file = .error error)
  /-- Something is wrong with the source text. -/
  | faulty {source : String} (found : view.read files invocation.file = .ok source)
      (faults : (Notation.compile source).diagnostics ≠ [])
  /-- There is nothing to run. -/
  | idle {settings : Settings}
      (given : view.settingsAt files (invocation.config.getD defaultConfig) = some settings)
      (idle : invocation.mode.IsIdle settings)

/-! ## Loading -/

namespace System

variable [Host (StateM σ)] (system : System σ) {here : σ}

/-- Whether there are settings to be loaded is settled by the files. -/
theorem load_settles (path : String) (here : σ) :
    match system.settingsAt (system.files here) path with
    | some settings => system.Ends here (Settings.load path) (.ok settings)
    | none => system.Fails here (Settings.load path) := by
  have looked : system.Ends here (Host.isPresent path : ExceptT Failure (StateM σ) Bool)
      (.ok (system.isPresent (system.files here) path)) :=
    .lift (system.answers_isPresent path here)
  unfold View.settingsAt Settings.load
  cases present : system.isPresent (system.files here) path with
  | false =>
    rw [present] at looked
    refine looked.bind_ok fun before _ => ?_
    exact .bind_ok (.lift (system.answers_record _ before)) fun _ _ => .pure _
  | true =>
    rw [present] at looked
    have opened : ∀ before, system.Same here before →
        system.Ends before (Host.read path : ExceptT Failure (StateM σ) _)
          (.ok (system.read (system.files here) path)) := by
      intro before same
      rw [← same.files_eq]
      exact .lift (system.answers_read path before)
    cases read : system.read (system.files here) path with
    | error error =>
      rw [read] at opened
      exact .behind looked fun before same => .behind (opened before same) fun _ _ => .throw _
    | ok text =>
      rw [read] at opened
      simp only [if_true]
      split
      · rename_i settings given
        refine looked.bind_ok fun before same => .bind_ok (opened before same) fun _ _ => ?_
        simp only [given]
        exact .pure _
      · rename_i missing
        refine .behind looked fun before same => .behind (opened before same) fun _ _ => ?_
        simp only [missing]
        exact .throw _

/-- A source text that can be read is compiled. -/
theorem ends_compileFile {path source : String}
    (found : system.read (system.files here) path = .ok source) :
    system.Ends here (compileFile path) (.ok (Notation.compile source)) := by
  refine .bind_ok (.lift (system.answers_read path here)) fun before _ => ?_
  rw [found]
  exact .bind_ok (system.ends_recordAll _ before) fun _ _ => .pure _

theorem fails_compileFile {path : String} {error : FileError}
    (failed : system.read (system.files here) path = .error error) :
    system.Fails here (compileFile path) := by
  refine .behind (.lift (system.answers_read path here)) fun before _ => ?_
  rw [failed]
  exact .throw _

/-- A warning is recorded for everything that is wrong with a source text. -/
theorem ends_warnings (path : String) (diagnostics : List Notation.Diagnostic) (here : σ) :
    system.Ends here
      (forIn diagnostics PUnit.unit fun diagnostic _ => do
        Host.record (.warn (path ++ ": " ++ diagnostic.text))
        return .yield PUnit.unit : ExceptT Failure (StateM σ) PUnit)
      (.ok ⟨⟩) := by
  refine .forIn_ok fun diagnostic before => ?_
  exact .bind_ok (.lift (system.answers_record _ before)) fun _ _ => .pure _

/-- A net is loaded from a source text in which nothing is wrong. -/
theorem ends_loadNet {path source : String}
    (found : system.read (system.files here) path = .ok source)
    (clean : (Notation.compile source).diagnostics = []) :
    system.Ends here (loadNet path) (.ok (Notation.compile source).net) := by
  have isClean : (Notation.compile source).isClean = true := List.isEmpty_iff.2 clean
  refine .bind_ok (system.ends_compileFile found) fun before _ => ?_
  refine .bind_ok (system.ends_warnings path _ before) fun after _ => ?_
  rw [isClean]
  refine .bind_ok (.lift (system.answers_record _ after)) fun later _ => ?_
  exact .bind_ok (system.ends_recordAll _ later) fun _ _ => .pure _

theorem fails_loadNet_of_unreadable {path : String} {error : FileError}
    (failed : system.read (system.files here) path = .error error) :
    system.Fails here (loadNet path) :=
  .bind (system.fails_compileFile failed)

/-- A source text in which something is wrong is refused. -/
theorem fails_loadNet_of_faulty {path source : String}
    (found : system.read (system.files here) path = .ok source)
    (faults : (Notation.compile source).diagnostics ≠ []) :
    system.Fails here (loadNet path) := by
  have isFaulty : (Notation.compile source).isClean = false := List.isEmpty_eq_false_iff.2 faults
  refine .behind (system.ends_compileFile found) fun before _ => ?_
  refine .behind (system.ends_warnings path _ before) fun after _ => ?_
  rw [isFaulty]
  exact .bind (.throw _)

/-! ## Running -/

/-- A batch without runs or without steps fails before anything is written. -/
theorem fails_performBatch (net : Net) {plan : BatchPlan} (nothing : plan.error? ≠ none)
    (top : Nat) (csv json : String) :
    system.Fails here (performBatch net plan top csv json) := by
  obtain ⟨error, idle⟩ := Option.ne_none_iff_exists'.1 nothing
  have seedless : (drawSeeds plan : ExceptT Failure (StateM σ) (Array UInt64)) = pure #[] := by
    simp [drawSeeds, idle]
  unfold performBatch
  rw [seedless]
  refine .behind (.pure _) fun before _ => .bind ?_
  simp only [runBatch, idle]
  exact .throw _

/-- A run without steps fails before anything is printed. -/
theorem fails_performSimulation (net : Net) (seed : UInt64) (story : List String) :
    system.Fails here (performSimulation net 0 seed story) := by
  refine .behind (system.ends_recordAll _ here) fun before _ => .bind ?_
  exact .throw _

theorem ends_seedOrDraw (seed : Option UInt64) (here : σ) :
    ∃ drawn, system.Ends here (seedOrDraw seed : ExceptT Failure (StateM σ) _) (.ok drawn) := by
  cases seed with
  | some seed => exact ⟨seed, .pure _⟩
  | none =>
    obtain ⟨drawn, answers⟩ := system.answers_drawSeed here
    exact ⟨drawn, .lift answers⟩

/-- What comes down to nothing fails whatever the net is. -/
theorem fails_mode_of_idle {mode : Mode} {settings : Settings} (idle : mode.IsIdle settings)
    (net : Net) : system.Fails here (mode.perform settings net) := by
  cases mode with
  | batch runs steps seed csv json =>
    refine system.fails_performBatch net (fun busy => ?_) _ _ _
    obtain ⟨someRuns, someSteps⟩ := BatchPlan.error?_eq_none_iff.1 busy
    exact idle.elim someRuns someSteps
  | simulate steps seed story =>
    obtain ⟨drawn, drawing⟩ := system.ends_seedOrDraw (seed.or settings.seed) here
    rw [Mode.IsIdle] at idle
    rw [Mode.perform, idle]
    exact .behind drawing fun before _ => system.fails_performSimulation net drawn story
  | exportNet format output => cases idle

/-! ## Rejection -/

variable {invocation : Invocation}

/-- Where the files give settings and a net without faults, the mode takes over. -/
theorem exists_run_perform {settings : Settings} {source : String}
    (given : system.settingsAt (system.files here) (invocation.config.getD defaultConfig) =
      some settings)
    (found : system.read (system.files here) invocation.file = .ok source)
    (clean : (Notation.compile source).diagnostics = []) :
    ∃ ready, system.Same here ready ∧
      (invocation.perform : ExceptT Failure (StateM σ) Unit).run.run here =
        (invocation.mode.perform settings (Notation.compile source).net :
          ExceptT Failure (StateM σ) Unit).run.run ready := by
  have settled := system.load_settles (invocation.config.getD defaultConfig) here
  simp only [given] at settled
  obtain ⟨before, same, loaded⟩ := settled.exists_run_bind _
  rw [← same.files_eq] at found
  obtain ⟨ready, later, compiled⟩ := (system.ends_loadNet found clean).exists_run_bind _
  exact ⟨ready, same.trans later, loaded.trans compiled⟩

/-- Where no net can be loaded it does not matter whether there are settings. -/
theorem fails_perform_of_loadNet
    (refused : ∀ before, system.Same here before → system.Fails before (loadNet invocation.file)) :
    system.Fails here invocation.perform := by
  have settled := system.load_settles (invocation.config.getD defaultConfig) here
  split at settled
  · exact .behind settled fun before same => .bind (refused before same)
  · exact .bind settled

/-- **A rejected invocation fails, and all is as it was.** -/
theorem fails_perform (rejected : invocation.Rejected system.toView (system.files here)) :
    system.Fails here invocation.perform := by
  have unreadable : ∀ {error}, system.read (system.files here) invocation.file = .error error →
      system.Fails here invocation.perform := by
    intro error failed
    refine system.fails_perform_of_loadNet fun before same => ?_
    exact system.fails_loadNet_of_unreadable (same.files_eq ▸ failed)
  have faulty : ∀ {source}, system.read (system.files here) invocation.file = .ok source →
      (Notation.compile source).diagnostics ≠ [] → system.Fails here invocation.perform := by
    intro source found faults
    refine system.fails_perform_of_loadNet fun before same => ?_
    exact system.fails_loadNet_of_faulty (same.files_eq ▸ found) faults
  cases rejected with
  | settings missing =>
    have settled := system.load_settles (invocation.config.getD defaultConfig) here
    simp only [missing] at settled
    exact .bind settled
  | unreadable failed => exact unreadable failed
  | faulty found faults => exact faulty found faults
  | idle given idle =>
    -- the net is loaded first, and that may fail as well
    cases found : system.read (system.files here) invocation.file with
    | error error => exact unreadable found
    | ok source =>
      by_cases clean : (Notation.compile source).diagnostics = []
      · obtain ⟨ready, same, ran⟩ := system.exists_run_perform given found clean
        obtain ⟨failure, after, failed, later⟩ := system.fails_mode_of_idle idle _
        exact ⟨failure, after, ran.trans failed, same.trans later⟩
      · exact faulty found clean

/-- A failure becomes a record and a code. -/
theorem answers_execute (fails : system.Fails here invocation.perform) :
    system.Answers here (invocation.execute : StateM σ UInt32) 1 := by
  obtain ⟨failure, ends⟩ := fails
  refine ends.bind fun before _ => ?_
  exact (system.answers_record _ before).bind fun _ _ => .pure _

end System

/-! ## Failures of an invocation that is not rejected -/

/-- The failures of a mode to write what it has to write. -/
def Mode.OutputFailure (settings : Settings) : Mode → Failure → Prop
  | .batch _ _ _ csv json, failure => ∃ error,
      failure = (Failure.ofSaving error).within
          ("failed to write audit log " ++ csv.getD settings.csv) ∨
        failure = (Failure.ofSaving error).within
          ("failed to write traces " ++ json.getD settings.json)
  | .simulate _ _ _, _ => False
  | .exportNet format output, failure => ∃ error, failure = format.failure output error

section Writing

variable {α ε : Type} {kind : Failure → Prop}

theorem failsOnly_orFail {failure : ε → Failure} {outcome : Except ε α}
    (errors : ∀ error, outcome = .error error → kind (failure error)) :
    FailsOnly kind (orFail failure outcome : ExceptT Failure (StateM σ) α) := by
  cases outcome with
  | ok value => exact .pure _
  | error error =>
    rintro here _ after ⟨⟩
    exact errors error rfl

variable [Host (StateM σ)]

/-- That a table cannot be saved is an answer and no failure. -/
theorem failsOnly_saveAudit (path : String) (traces : List Trace) :
    FailsOnly kind (saveAudit path traces : ExceptT Failure (StateM σ) _) := by
  refine .bind (.lift _) fun written => ?_
  cases written with
  | error error => exact .pure _
  | ok _ => exact .bind (.lift _) fun _ => .pure _

theorem failsOnly_save (document : TraceDocument) (path : String) :
    FailsOnly kind (document.save path : ExceptT Failure (StateM σ) _) := by
  refine .bind (.lift _) fun written => ?_
  cases written with
  | error error => exact .pure _
  | ok _ => exact .bind (.lift _) fun _ => .pure _

theorem failsOnly_drawSeeds (plan : BatchPlan) :
    FailsOnly kind (drawSeeds plan : ExceptT Failure (StateM σ) _) := by
  unfold drawSeeds
  split
  · exact .pure _
  · exact .bind (.mapM fun _ => .lift _) fun _ => .pure _

/-- A batch with runs and steps fails only if a file cannot be written. -/
theorem failsOnly_performBatch (net : Net) {plan : BatchPlan} (busy : plan.error? = none)
    (top : Nat) (csv json : String)
    (audit : ∀ error, kind ((Failure.ofSaving error).within ("failed to write audit log " ++ csv)))
    (traces : ∀ error, kind ((Failure.ofSaving error).within ("failed to write traces " ++ json))) :
    FailsOnly kind (performBatch net plan top csv json : ExceptT Failure (StateM σ) Unit) := by
  refine .bind (failsOnly_drawSeeds plan) fun seeds => ?_
  refine .bind (failsOnly_orFail fun error failed => ?_) fun outcome => ?_
  · simp only [runBatch, busy] at failed
    cases failed
  refine .bind (.recordAll _) fun _ => .bind (failsOnly_saveAudit _ _) fun saved => ?_
  refine .bind (failsOnly_orFail fun error _ => audit error) fun rows => ?_
  have ending : FailsOnly kind (do
      Host.print (Summary.text outcome.1.statistics top)
      orFail (fun error => (Failure.ofSaving error).within ("failed to write traces " ++ json))
        (← (TraceDocument.ofOutcome net outcome.1).save json) : ExceptT Failure (StateM σ) Unit) :=
    .bind (.lift _) fun _ => .bind (failsOnly_save _ _) fun _ =>
      failsOnly_orFail fun error _ => traces error
  split
  · exact .bind (.lift _) fun _ => ending
  · exact ending

/-- A run with steps does not fail. -/
theorem failsOnly_performSimulation (net : Net) {budget : Nat} (positive : budget ≠ 0)
    (seed : UInt64) (story : List String) :
    FailsOnly kind (performSimulation net budget seed story : ExceptT Failure (StateM σ) Unit) := by
  refine .bind (.recordAll _) fun _ => .bind (failsOnly_orFail fun error failed => ?_) fun _ => ?_
  · rw [runStory, if_neg positive] at failed
    cases failed
  · exact .bind (.recordAll _) fun _ => .lift _

theorem failsOnly_performExport (net : Net) (format : ExportFormat) (output : String)
    (unwritten : ∀ error, kind (format.failure output error)) :
    FailsOnly kind (performExport net format output : ExceptT Failure (StateM σ) Unit) :=
  .bind (.lift _) fun _ => .bind (failsOnly_orFail fun error _ => unwritten error) fun _ => .lift _

theorem failsOnly_seedOrDraw (seed : Option UInt64) :
    FailsOnly kind (seedOrDraw seed : ExceptT Failure (StateM σ) UInt64) := by
  cases seed with
  | some seed => exact .pure _
  | none => exact .lift _

/-- **A mode that does not come down to nothing fails only if a file cannot be written.** -/
theorem failsOnly_mode {mode : Mode} {settings : Settings} (busy : ¬mode.IsIdle settings)
    (net : Net) :
    FailsOnly (mode.OutputFailure settings)
      (mode.perform settings net : ExceptT Failure (StateM σ) Unit) := by
  cases mode with
  | batch runs steps seed csv json =>
    have sound : (settings.plan runs steps seed).error? = none :=
      BatchPlan.error?_eq_none_iff.2 (not_or.1 busy)
    refine failsOnly_performBatch net sound _ _ _ ?_ ?_
    · exact fun error => ⟨error, .inl rfl⟩
    · exact fun error => ⟨error, .inr rfl⟩
  | simulate steps seed story =>
    refine (failsOnly_seedOrDraw _).bind fun drawn => ?_
    exact failsOnly_performSimulation net busy drawn story
  | exportNet format output =>
    exact failsOnly_performExport net format output fun error => ⟨error, rfl⟩

end Writing

/-- What is there for an invocation that is not rejected. -/
theorem Invocation.exists_of_not_rejected {view : View σ} {files : view.Files}
    {invocation : Invocation} (accepted : ¬invocation.Rejected view files) :
    ∃ settings source,
      view.settingsAt files (invocation.config.getD defaultConfig) = some settings ∧
        view.read files invocation.file = .ok source ∧
        (Notation.compile source).diagnostics = [] ∧ ¬invocation.mode.IsIdle settings := by
  cases given : view.settingsAt files (invocation.config.getD defaultConfig) with
  | none => exact absurd (.settings given) accepted
  | some settings =>
    cases found : view.read files invocation.file with
    | error error => exact absurd (.unreadable found) accepted
    | ok source =>
      have clean : (Notation.compile source).diagnostics = [] :=
        Classical.byContradiction fun faults => accepted (.faulty found faults)
      exact ⟨settings, source, rfl, rfl, clean, fun idle => accepted (.idle given idle)⟩

/-- **A rejected invocation leaves no trace.** In any system, an invocation whose settings give
nothing, whose source text cannot be read or has anything wrong with it, or which comes down to
no runs or no steps, fails while the files and what has been printed stay as they are, and so it
ends with the code one. Any other invocation has settings, and fails only when a file that its
mode has to write cannot be written. -/
theorem rejected_leaves_no_trace [Host (StateM σ)] (system : System σ) (here : σ)
    (invocation : Invocation) :
    (invocation.Rejected system.toView (system.files here) →
      system.Fails here invocation.perform ∧ system.Answers here invocation.execute 1) ∧
    (¬invocation.Rejected system.toView (system.files here) → ∃ settings,
      system.settingsAt (system.files here) (invocation.config.getD defaultConfig) =
          some settings ∧
        ∀ failure after,
          (invocation.perform : ExceptT Failure (StateM σ) Unit).run.run here =
            (.error failure, after) → invocation.mode.OutputFailure settings failure) := by
  constructor
  · intro rejected
    have fails := system.fails_perform rejected
    exact ⟨fails, system.answers_execute fails⟩
  · intro accepted
    obtain ⟨settings, source, given, found, clean, busy⟩ :=
      Invocation.exists_of_not_rejected accepted
    refine ⟨settings, given, fun failure after failed => ?_⟩
    obtain ⟨ready, -, ran⟩ := system.exists_run_perform given found clean
    rw [ran] at failed
    exact failsOnly_mode busy _ ready failure after failed

/-- A net without faults, and settings that leave no steps to the runs of a batch. -/
def Surroundings.standstill : Surroundings where
  files := ⟨⟨[("net.pn", .file "a -> #t -> b. a."), ("pneu.toml", .file "steps = 0")], by decide⟩⟩

theorem Surroundings.standstill_settings :
    system.settingsAt standstill.files "pneu.toml" = some { steps := 0 } := by
  have located : standstill.files.locate "pneu.toml" = .ok ["pneu.toml"] :=
    standstill.files.locate_name (by decide) (by decide)
  have present : system.isPresent standstill.files "pneu.toml" = true := by
    show standstill.files.isPresent _ = true
    rw [FileTree.isPresent, located]
    rfl
  have read : system.read standstill.files "pneu.toml" = .ok "steps = 0" := by
    show standstill.files.read _ = _
    rw [FileTree.read, located]
    rfl
  simp only [View.settingsAt, present, if_true, read]
  decide +kernel

theorem Surroundings.standstill_source :
    system.read standstill.files "net.pn" = .ok "a -> #t -> b. a." := by
  have located : standstill.files.locate "net.pn" = .ok ["net.pn"] :=
    standstill.files.locate_name (by decide) (by decide)
  show standstill.files.read _ = _
  rw [FileTree.read, located]
  rfl

/-- A batch of three runs is rejected for its steps and leaves no trace. With two steps from the
command line a single run is not rejected, and it cannot fail. -/
theorem standstill_leaves_no_trace :
    let batch : Invocation :=
      ⟨"net.pn", none, false, .batch (some 3) none none none none⟩
    let single : Invocation := ⟨"net.pn", none, false, .simulate (some 2) none ["t"]⟩
    (Surroundings.system.Fails Surroundings.standstill batch.perform ∧
      Surroundings.system.Answers Surroundings.standstill batch.execute 1) ∧
    ∀ failure after,
      (single.perform : ExceptT Failure (StateM Surroundings) Unit).run.run
        Surroundings.standstill ≠ (.error failure, after) := by
  intro batch single
  have leaves := rejected_leaves_no_trace Surroundings.system Surroundings.standstill
  constructor
  · exact (leaves batch).1 (.idle Surroundings.standstill_settings (.inr rfl))
  · have clean : (Notation.compile "a -> #t -> b. a.").diagnostics = [] :=
      List.isEmpty_iff.1 (by decide +kernel)
    have accepted : ¬single.Rejected Surroundings.system.toView Surroundings.standstill.files := by
      intro rejected
      cases rejected with
      | settings missing => cases Surroundings.standstill_settings.symm.trans missing
      | unreadable failed => cases Surroundings.standstill_source.symm.trans failed
      | faulty found faults =>
        cases Surroundings.standstill_source.symm.trans found
        exact faults clean
      | idle given idle => cases idle
    obtain ⟨settings, -, only⟩ := (leaves single).2 accepted
    exact only

end EventNet
