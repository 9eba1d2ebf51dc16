import EventNet.Trace

/-!
# The transcript of a run

A line for the seed, for the initial marking and for every step, and how the run ended.
If it followed a story, a last line says how far the story has come.
-/

set_option autoImplicit false

namespace EventNet.Transcript

/-- A line. -/
def line (words : String) : String := words ++ "\n"

/-- The line of a step. -/
def stepLine (record : StepRecord) : String :=
  line ("step " ++ toString record.step ++ ": fired [" ++ ", ".intercalate record.firedLabels ++
    "] -> " ++ record.marking.text)

/-- The line about the end of a run with a budget of steps. -/
def endLine (budget : Nat) (trace : Trace) : String :=
  match trace.stepsToQuiescence with
  | some steps => line ("quiescent after " ++ toString steps ++ " step(s)")
  | none => line ("step budget of " ++ toString budget ++ " exhausted")

/-- The line about the story. -/
def storyLine (story : List String) (trace : Trace) : String :=
  if story.isEmpty then ""
  else
    line ("story: " ++ toString trace.storyProgress ++ " of " ++ toString story.length ++
      " label(s) fired")

/-- The transcript of a run of a net. -/
def text (net : Net) (budget : Nat) (story : List String) (trace : Trace) : String :=
  line ("seed " ++ toString trace.seed.toNat) ++
    line ("step 0: " ++ (Marking.initial net).text net) ++
    String.join (trace.steps.map stepLine) ++ endLine budget trace ++ storyLine story trace

end EventNet.Transcript
