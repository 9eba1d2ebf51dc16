import EventNet.Firing.Step
import EventNet.Random.ChaCha
import EventNet.Trace

/-!
# Runs

A run starts from the initial marking and takes steps until nothing can happen or a
budget of steps is used up.

A run may follow a story, which is a list of labels: in every step the next label of
the story is preferred, and once it has fired the story moves on. A label that is not
enabled is waited for, while the other buses go on.
-/

set_option autoImplicit false

namespace EventNet

open EventNet.Random (WordSource ChaCha)

/-- Why nothing can be run. -/
inductive RunError where
  | zeroTrials
  | zeroSteps
  deriving DecidableEq

/-- The wording of an error. -/
def RunError.message : RunError → String
  | zeroTrials => "trial count must be positive"
  | zeroSteps => "step budget must be positive"

/-- A step of a run and the state behind it. -/
structure Moment where
  arbitration : Arbitration
  state : RunState

/-- A run from some state on. -/
structure Course where
  moments : List Moment
  final : RunState
  /-- How many labels of the story have fired. -/
  progress : Nat
  /-- The run ended because no bus was enabled. -/
  stopped : Bool

/-- The state at the start of a run. -/
def RunState.initial (net : Net) : RunState :=
  { marking := Marking.initial net, fired := FiredSources.empty }

/-- The story behind a step: the first label is done if it has fired. -/
def advance (fired : List String) : List String → List String
  | [] => []
  | label :: story => if fired.contains label then story else label :: story

namespace Engine

variable {σ : Type}

/-- Takes steps from a state on, at most as many as the budget allows. -/
def courseFrom [WordSource σ] (engine : Engine) (story : List String) (state : RunState)
    (source : σ) : Nat → Course
  | 0 => { moments := [], final := state, progress := 0, stopped := false }
  | budget + 1 =>
    match engine.step? story.head? state source with
    | none => { moments := [], final := state, progress := 0, stopped := true }
    | some (arbitration, after, source) =>
      let remaining := advance arbitration.step.labels story
      let rest := engine.courseFrom remaining after source budget
      { rest with
        moments := { arbitration, state := after } :: rest.moments
        progress := (story.length - remaining.length) + rest.progress }

/-- A run for a seed. -/
def course (engine : Engine) (budget : Nat) (seed : UInt64) (story : List String) : Course :=
  engine.courseFrom story (RunState.initial engine.net) (ChaCha.ofSeed seed) budget

end Engine

/-- The records of steps, the first of which has the given number. -/
def recordsFrom (net : Net) : (number : Nat) → List Moment → List StepRecord
  | _, [] => []
  | number, moment :: moments =>
    { step := number
      firedLabels := moment.arbitration.step.labels
      firedInstances := moment.arbitration.step.instances
      marking := moment.state.marking.snapshot net } :: recordsFrom net (number + 1) moments

/-- The record of a run. -/
def Course.trace (engine : Engine) (seed : UInt64) (course : Course) : Trace where
  seed
  steps := recordsFrom engine.net 1 course.moments
  quiescent := course.stopped || engine.isQuiescent course.final.marking course.final.fired
  finalMarking := course.final.marking.snapshot engine.net
  storyProgress := course.progress

/-- The beginning of a log line about a run. -/
def aboutSeed (seed : UInt64) (text : String) : String :=
  "seed " ++ toString seed.toNat ++ ": " ++ text

/-- The log of steps, the first of which has the given number. -/
def stepsLogFrom (seed : UInt64) : (number : Nat) → List Moment → Log
  | _, [] => []
  | number, moment :: moments =>
    let fired := "step " ++ toString number ++ " fired [" ++
      ", ".intercalate moment.arbitration.step.labels ++ "]"
    moment.arbitration.log ++
      .debug (aboutSeed seed fired) :: stepsLogFrom seed (number + 1) moments

/-- The log of a run. -/
def Course.log (seed : UInt64) (course : Course) : Log :=
  let ending := "quiescent after " ++ toString course.moments.length ++ " steps"
  stepsLogFrom seed 1 course.moments ++
    if course.stopped then [.debug (aboutSeed seed ending)] else []

/-- The warning about a story that has not come to its end. -/
def stallLog (seed : UInt64) (story : List String) (progress : Nat) : Log :=
  match story[progress]? with
  | none => []
  | some label =>
    [.warn (aboutSeed seed ("story stalled at '" ++ label ++ "' (" ++ toString progress ++
      " of " ++ toString story.length ++ " labels fired)"))]

/-- Runs a net once, following a story. -/
def runStory (net : Net) (budget : Nat) (seed : UInt64) (story : List String) :
    Except RunError (Trace × Log) :=
  if budget = 0 then .error .zeroSteps
  else
    let engine := Engine.ofNet net
    let course := engine.course budget seed story
    .ok (course.trace engine seed, course.log seed ++ stallLog seed story course.progress)

/-- Runs a net once. -/
def runTrial (net : Net) (budget : Nat) (seed : UInt64) : Except RunError (Trace × Log) :=
  runStory net budget seed []

end EventNet
