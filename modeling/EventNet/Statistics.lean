import EventNet.Trace

/-!
# Statistics of many runs

How often every bus has fired, when it fired first, how many runs became quiescent and
how soon, and which final markings were reached. Nothing in them depends on the order
of the runs.
-/

set_option autoImplicit false

namespace EventNet

/-- How a bus fared. -/
structure LabelStatistics where
  /-- In how many runs it has fired. -/
  trialsFired : Nat := 0
  /-- The mean number of the step in which it fired first. -/
  meanFirstFireStep : Option Float := none
  /-- In how many steps it has fired in all. -/
  totalFirings : Nat := 0

/-- Statistics of many runs of one net. -/
structure Statistics where
  trials : Nat
  /-- The budget of steps of every run. -/
  steps : Nat
  quiescentTrials : Nat
  meanStepsToQuiescence : Option Float
  labels : LabelMap LabelStatistics
  /-- The texts of the final markings with the number of their runs, frequent ones first. -/
  finalMarkings : List (String × Nat)

/-- The mean of numbers: one division of their exact sum. -/
def mean (numbers : List Nat) : Option Float :=
  if numbers.isEmpty then none
  else some (Float.ofNat (numbers.foldr (· + ·) 0) / Float.ofNat numbers.length)

/-- The number of the first step of a run in which a bus fired. -/
def Trace.firstFiring? (trace : Trace) (label : String) : Option Nat :=
  (trace.steps.find? fun record => record.firedLabels.contains label).map StepRecord.step

/-- How many times a bus fired in a run. -/
def Trace.firings (trace : Trace) (label : String) : Nat :=
  trace.steps.foldr (fun record count => record.firedLabels.count label + count) 0

/-- How a bus fared in many runs. -/
def labelStatistics (traces : List Trace) (label : String) : LabelStatistics :=
  let firsts := traces.filterMap fun trace => trace.firstFiring? label
  { trialsFired := firsts.length
    meanFirstFireStep := mean firsts
    totalFirings := traces.foldr (fun trace count => trace.firings label + count) 0 }

/-- Texts with the number of their occurrences. -/
def tally (texts : List String) : LabelMap Nat :=
  texts.foldl (fun counts text => counts.upsert text fun count => count.getD 0 + 1) LabelMap.empty

/-- The order of counted texts: frequent ones first, equally frequent ones by code points. -/
def comesBefore (first second : String × Nat) : Bool :=
  second.2 < first.2 || (first.2 == second.2 && !(second.1 < first.1))

/-- The statistics of runs of a net with a budget of steps. -/
def Statistics.ofTraces (net : Net) (steps : Nat) (traces : List Trace) : Statistics :=
  let quiescent := traces.filterMap Trace.stepsToQuiescence
  { trials := traces.length
    steps
    quiescentTrials := quiescent.length
    meanStepsToQuiescence := mean quiescent
    labels := net.buses.mapLabels (labelStatistics traces)
    finalMarkings := (tally (traces.map Trace.finalText)).entries.mergeSort comesBefore }

/-- The share of the runs in which a bus has fired. -/
def Statistics.fireRatio? (statistics : Statistics) (label : String) : Option Float :=
  match statistics.labels.find? label with
  | none => none
  | some entry =>
    if statistics.trials = 0 then none
    else some (Float.ofNat entry.trialsFired / Float.ofNat statistics.trials)

end EventNet
