import EventNet.CommandLine.Reading
import EventNet.Program.Run

/-!
# The program as a command

A command starts with words from the environment, which are split like a line, and goes
on with those of its own. It ends with a code: zero if all went well, one if not, two if
the words make no sense.
-/

set_option autoImplicit false

namespace EventNet

/-- What a command is started with. -/
structure Start where
  /-- Words that come from the environment, as one line. -/
  flags : String := ""
  arguments : List String

/-- The name and the version. -/
def versionText : String := "pneu v0.1.0\n"

/-- How the command is used. -/
def usageText : String :=
  "Stochastic executor for condition/event Petri nets\n\n" ++
    "Usage: [-v] [-c CONFIG] <FILE> <batch|simulate|export>\n\n" ++
    "  batch     [-n RUNS] [--steps N] [--seed SEED] [--csv PATH] [--json PATH]\n" ++
    "  simulate  [--steps N] [--seed SEED] [--story LABELS]\n" ++
    "  export    --format <json|ron|dot|pnml> -o PATH\n"

namespace CommandLine.UsageError

/-- The wording of a usage error. -/
def message : UsageError → String
  | missingArgument => "a required argument is missing"
  | missingCommand => "a command is missing"
  | unknownArgument => "an argument is not known"
  | unreadableNumber => "a number cannot be read"
  | invalidValue => "a value is not valid"
  | repeatedOption => "an option is given twice"
  | surplusValue => "a flag takes no value"
  | helpWanted => usageText
  | versionWanted => versionText

end CommandLine.UsageError

/-- Which records are shown: those up to a level, or none. -/
abbrev Threshold := Option Level

namespace Threshold

/-- The threshold that a word from the environment names. -/
def ofText (text : String) : Threshold :=
  match text.toLower with
  | "" => some .error
  | "trace" => some .debug
  | name => Level.ofName? name

/-- The threshold for a command. Verbose ones show everything. -/
def choose (setting : Option String) (verbose : Bool) : Threshold :=
  if verbose then some .debug else ofText (setting.getD "info")

/-- The lines of the records that are shown. -/
def lines (threshold : Threshold) (log : Log) : List String :=
  match threshold with
  | none => []
  | some level => log.linesUpTo level

end Threshold

variable {m : Type → Type} [Monad m] [Host m]

/-- What the words of a command ask for. Nothing if a quote is not closed. -/
def Start.invocation? (start : Start) : Option (Except CommandLine.UsageError Invocation) :=
  (CommandLine.words? start.flags).map fun flags => Invocation.ofWords (flags ++ start.arguments)

/-- Does what an invocation asks for, and gives the code with which the command ends. -/
def Invocation.execute (invocation : Invocation) : m UInt32 := do
  match ← invocation.perform.run with
  | .ok _ => return 0
  | .error failure =>
    Host.record (.error failure.message)
    return 1

/-- Runs the command, and gives the code with which it ends. -/
def Start.run (start : Start) : m UInt32 := do
  match start.invocation? with
  | none =>
    Host.complain "error: Mismatched quotes"
    return 1
  | some (.error .helpWanted) =>
    Host.print usageText
    return 0
  | some (.error .versionWanted) =>
    Host.print versionText
    return 0
  | some (.error error) =>
    Host.complain ("error: " ++ error.message)
    return 2
  | some (.ok invocation) => invocation.execute

/-- Whether the command is verbose. -/
def Start.isVerbose (start : Start) : Bool :=
  match start.invocation? with
  | some (.ok invocation) => invocation.verbose
  | _ => false

end EventNet
