import EventNet.Run
import EventNet.Statistics

/-!
# Batches

Many independent runs of one net, which share nothing but the net. The seeds of the runs
follow one another from a master seed; without one every run has a seed of its own,
which comes from outside.
-/

set_option autoImplicit false

namespace EventNet

/-- What is to be run. -/
structure BatchPlan where
  trials : Nat
  steps : Nat
  /-- The seed of the first run. -/
  seed : Option UInt64 := none
  deriving DecidableEq

namespace BatchPlan

/-- What keeps a plan from being run. -/
def error? (plan : BatchPlan) : Option RunError :=
  if plan.trials = 0 then some .zeroTrials
  else if plan.steps = 0 then some .zeroSteps
  else none

/-- A plan can be run if it has runs and steps. -/
theorem error?_eq_none_iff {plan : BatchPlan} :
    plan.error? = none ↔ plan.trials ≠ 0 ∧ plan.steps ≠ 0 := by
  unfold error?
  split
  · simp [*]
  · split <;> simp [*]

/-- The seed of a run. Seeds wrap around. -/
def seedOf (plan : BatchPlan) (entropy : Nat → UInt64) (trial : Nat) : UInt64 :=
  match plan.seed with
  | some seed => seed + trial.toUInt64
  | none => entropy trial

end BatchPlan

/-- The runs of a batch and their statistics. -/
structure BatchOutcome where
  traces : List Trace
  statistics : Statistics

/-- The log of the start of a batch. -/
def BatchPlan.startRecord (plan : BatchPlan) : LogRecord :=
  let master := match plan.seed with
    | some seed => " (master seed " ++ toString seed.toNat ++ ")"
    | none => ""
  .info ("running " ++ toString plan.trials ++ " trials of at most " ++ toString plan.steps ++
    " steps" ++ master)

/-- The log of the end of a batch. -/
def Statistics.endRecord (statistics : Statistics) : LogRecord :=
  .info (toString statistics.quiescentTrials ++ " of " ++ toString statistics.trials ++
    " trials reached quiescence")

/-- Runs a batch. `entropy` gives the seeds of runs without a master seed. -/
def runBatch (net : Net) (plan : BatchPlan) (entropy : Nat → UInt64) :
    Except RunError (BatchOutcome × Log) :=
  match plan.error? with
  | some error => .error error
  | none =>
    let engine := Engine.ofNet net
    let traces := (List.range plan.trials).map fun trial =>
      let seed := plan.seedOf entropy trial
      (engine.course plan.steps seed []).trace engine seed
    let statistics := Statistics.ofTraces net plan.steps traces
    .ok ({ traces, statistics }, [plan.startRecord, statistics.endRecord])

end EventNet
