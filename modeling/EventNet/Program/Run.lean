import EventNet.Net.Diagnosis
import EventNet.Program.Inputs
import EventNet.Program.Outputs
import EventNet.Report.Transcript

/-!
# Runs of the program

The settings are read first and the net next. A net with any problem is refused, and so
is a run without trials or steps; nothing is written or printed before that is clear.
-/

set_option autoImplicit false

namespace EventNet

variable {m : Type → Type} [Monad m] [Host m]

/-- The path of the settings if none is given. -/
def defaultConfig : String := "pneu.toml"

/-- Gives up with a failure that an error stands for. -/
def orFail {ε α : Type} (failure : ε → Failure) : Except ε α → ExceptT Failure m α
  | .ok value => return value
  | .error error => throw (failure error)

/-- Reads a net, and refuses it if anything is wrong. -/
def loadNet (file : String) : ExceptT Failure m Net := do
  let compilation ← compileFile file
  for diagnostic in compilation.diagnostics do
    Host.record (.warn (file ++ ": " ++ diagnostic.text))
  if !compilation.isClean then
    let count := toString compilation.diagnostics.length
    throw { matter := file ++ " has " ++ count ++ " problem(s), refusing to run" }
  let count := toString compilation.statements.length
  Host.record (.info ("compiled " ++ file ++ " (" ++ count ++ " statements)"))
  Host.recordAll compilation.net.diagnose.log
  return compilation.net

/-- Seeds for the runs of a plan that has none. -/
def drawSeeds (plan : BatchPlan) : m (Array UInt64) :=
  if plan.seed.isSome || plan.error?.isSome then return #[]
  else return (← (List.range plan.trials).mapM fun _ => Host.drawSeed).toArray

/-- Runs a net many times, and writes the audit log, the summary and the trace document. -/
def performBatch (net : Net) (plan : BatchPlan) (top : Nat) (csv json : String) :
    ExceptT Failure m Unit := do
  let seeds ← drawSeeds plan
  let (outcome, log) ← orFail Failure.ofRun (runBatch net plan fun trial => seeds[trial]?.getD 0)
  Host.recordAll log
  let auditFailure error := (Failure.ofSaving error).within ("failed to write audit log " ++ csv)
  let rows ← orFail auditFailure (← saveAudit csv outcome.traces)
  if rows == 0 then
    Host.record (.warn "no transition fired in any trial")
  Host.print (Summary.text outcome.statistics top)
  let document := TraceDocument.ofOutcome net outcome
  let tracesFailure error := (Failure.ofSaving error).within ("failed to write traces " ++ json)
  orFail tracesFailure (← document.save json)

/-- Warnings about the labels of a story that name no transition. -/
def storyLog (net : Net) (story : List String) : Log :=
  (story.filter fun label => (net.bus label).isEmpty).map fun label =>
    .warn ("story label '" ++ label ++ "' names no transition")

/-- Runs a net once and prints the transcript. -/
def performSimulation (net : Net) (budget : Nat) (seed : UInt64) (story : List String) :
    ExceptT Failure m Unit := do
  Host.recordAll (storyLog net story)
  let (trace, log) ← orFail Failure.ofRun (runStory net budget seed story)
  Host.recordAll log
  Host.print (Transcript.text net budget story trace)

/-- Writes a net to a file. -/
def performExport (net : Net) (format : ExportFormat) (output : String) :
    ExceptT Failure m Unit := do
  let exportFailure error := format.failure output error
  orFail exportFailure (← Host.write output (format.render net))
  Host.record (.info ("exported net to " ++ output))

/-- The seed that is given, or one that nobody has chosen. -/
def seedOrDraw : Option UInt64 → m UInt64
  | some seed => return seed
  | none => Host.drawSeed

/-- Does with a net what a mode asks for. -/
def Mode.perform (settings : Settings) (net : Net) : Mode → ExceptT Failure m Unit
  | batch runs steps seed csv json =>
    performBatch net (settings.plan runs steps seed) settings.summaryTop
      (csv.getD settings.csv) (json.getD settings.json)
  | simulate steps seed story => do
    let seed ← seedOrDraw (seed.or settings.seed)
    performSimulation net (steps.getD settings.simulateSteps) seed story
  | exportNet format output => performExport net format output

/-- Does what a command line asks for. -/
def Invocation.perform (invocation : Invocation) : ExceptT Failure m Unit := do
  let settings ← Settings.load (invocation.config.getD defaultConfig)
  let net ← loadNet invocation.file
  invocation.mode.perform settings net

end EventNet
