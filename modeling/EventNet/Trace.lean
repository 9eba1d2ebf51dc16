import EventNet.Marking

/-!
# Traces

The record of a run: what fired in every step and the marking after it, by name.
-/

set_option autoImplicit false

namespace EventNet

/-- One step of a run. -/
structure StepRecord where
  /-- The number of the step, from one. -/
  step : Nat
  firedLabels : List String
  firedInstances : List TransitionId
  /-- The marking after the step. -/
  marking : Snapshot
  deriving DecidableEq

/-- A run. -/
structure Trace where
  seed : UInt64
  steps : List StepRecord
  /-- Nothing could happen any more when the run ended. -/
  quiescent : Bool
  finalMarking : Snapshot
  /-- How many labels of the story have fired. -/
  storyProgress : Nat
  deriving DecidableEq

namespace Trace

/-- The number of steps to quiescence, if the run became quiescent. -/
def stepsToQuiescence (trace : Trace) : Option Nat :=
  if trace.quiescent then some trace.steps.length else none

/-- The text of the final marking. -/
def finalText (trace : Trace) : String := trace.finalMarking.text

/-- The labels step by step, with a plus sign between those of one step. -/
def path (trace : Trace) : String :=
  " -> ".intercalate (trace.steps.map fun record => "+".intercalate record.firedLabels)

end Trace

end EventNet
