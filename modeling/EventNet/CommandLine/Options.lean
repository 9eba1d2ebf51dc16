import EventNet.CommandLine.Invocation

/-!
# Options

Every command has options of its own. An option is named by two dashes and a word, and
some also by a dash and a letter. It is a mere flag, or it takes a value; an option must
not be given twice, except that stories add up.
-/

set_option autoImplicit false

namespace EventNet.CommandLine

/-- Why a command line is not carried out. -/
inductive UsageError where
  /-- Something required is not there. -/
  | missingArgument
  /-- There is no command. -/
  | missingCommand
  /-- A word is not known or one too many. -/
  | unknownArgument
  /-- A number cannot be read. -/
  | unreadableNumber
  /-- A value is missing, empty, or none of those possible. -/
  | invalidValue
  /-- An option is given twice. -/
  | repeatedOption
  /-- A flag is given a value. -/
  | surplusValue
  /-- Help is asked for. -/
  | helpWanted
  /-- The version is asked for. -/
  | versionWanted
  deriving DecidableEq

/-- A command. -/
inductive Command where
  | batch
  | simulate
  | exportNet
  deriving DecidableEq

/-- The command with a name. -/
def Command.ofName? : String → Option Command
  | "batch" => some batch
  | "simulate" => some simulate
  | "export" => some exportNet
  | _ => none

/-- Something that is given: an option, or the file. -/
inductive Parameter where
  | file
  | config
  | verbose
  | runs
  | steps
  | seed
  | csv
  | json
  | story
  | format
  | output
  | help
  | version
  deriving DecidableEq

/-- Whether a value goes with a parameter. -/
def Parameter.takesValue : Parameter → Bool
  | verbose | help | version => false
  | _ => true

/-- The part of a command line in which options stand: before the command or behind it. -/
abbrev Scope := Option Command

namespace Scope

/-- The option with a long name. -/
def long? : Scope → String → Option Parameter
  | _, "help" => some .help
  | none, "version" => some .version
  | none, "verbose" => some .verbose
  | none, "config" => some .config
  | some .batch, "runs" => some .runs
  | some .batch, "steps" | some .simulate, "steps" => some .steps
  | some .batch, "seed" | some .simulate, "seed" => some .seed
  | some .batch, "csv" => some .csv
  | some .batch, "json" => some .json
  | some .simulate, "story" => some .story
  | some .exportNet, "format" => some .format
  | some .exportNet, "output" => some .output
  | _, _ => none

/-- The option with a letter. -/
def short? : Scope → Char → Option Parameter
  | _, 'h' => some .help
  | none, 'V' => some .version
  | none, 'v' => some .verbose
  | none, 'c' => some .config
  | some .batch, 'n' => some .runs
  | some .exportNet, 'o' => some .output
  | _, _ => none

end Scope

/-- What has been given. -/
structure Given where
  file : Option String := none
  config : Option String := none
  verbose : Bool := false
  runs : Option Nat := none
  steps : Option Nat := none
  seed : Option UInt64 := none
  csv : Option String := none
  json : Option String := none
  story : List String := []
  format : Option ExportFormat := none
  output : Option String := none

/-- The greatest number that can be given. -/
def maxNumber : Nat := Nat.pow 2 64 - 1

/-- The number that a value spells: decimal digits, perhaps behind a plus sign. -/
def numberOf (value : String) : Except UsageError Nat :=
  let digits := match value.toList with
    | '+' :: digits => digits
    | digits => digits
  if digits.isEmpty || !digits.all Char.isDigit then .error .unreadableNumber
  else
    let result := digits.foldl (fun number digit => number * 10 + (digit.toNat - 48)) 0
    if result ≤ maxNumber then .ok result else .error .unreadableNumber

/-- A value that is a path. -/
def pathOf (value : String) : Except UsageError String :=
  if value.isEmpty then .error .invalidValue else .ok value

/-- A value that names a format. -/
def formatOf (value : String) : Except UsageError ExportFormat :=
  match ExportFormat.ofName? value with
  | some format => .ok format
  | none => .error .invalidValue

/-- The labels between the commas of a value. -/
def labelsOf (value : String) : List String := value.splitOn ","

/-- The first value of a parameter, or the error of one that is given twice. -/
def once {α : Type} (before : Option α) (value : Except UsageError α) :
    Except UsageError (Option α) :=
  match before with
  | some _ => .error .repeatedOption
  | none => value.map some

namespace Given

/-- Adds a parameter with its value. -/
def accept (given : Given) (value : String) : Parameter → Except UsageError Given
  | .file => do return { given with file := ← once given.file (pathOf value) }
  | .config => do return { given with config := ← once given.config (pathOf value) }
  | .runs => do return { given with runs := ← once given.runs (numberOf value) }
  | .steps => do return { given with steps := ← once given.steps (numberOf value) }
  | .seed => do
    return { given with seed := ← once given.seed ((numberOf value).map Nat.toUInt64) }
  | .csv => do return { given with csv := ← once given.csv (pathOf value) }
  | .json => do return { given with json := ← once given.json (pathOf value) }
  | .story => .ok { given with story := given.story ++ labelsOf value }
  | .format => do return { given with format := ← once given.format (formatOf value) }
  | .output => do return { given with output := ← once given.output (pathOf value) }
  | .verbose | .help | .version => .error .surplusValue

/-- Adds a parameter without a value. -/
def acceptFlag (given : Given) : Parameter → Except UsageError Given
  | .verbose => if given.verbose then .error .repeatedOption else .ok { given with verbose := true }
  | .help => .error .helpWanted
  | .version => .error .versionWanted
  | _ => .error .invalidValue

/-- The mode that a command and what was given behind it make up. -/
def mode (given : Given) : Command → Except UsageError Mode
  | .batch => .ok (.batch given.runs given.steps given.seed given.csv given.json)
  | .simulate => .ok (.simulate given.steps given.seed given.story)
  | .exportNet =>
    match given.format, given.output with
    | some format, some output => .ok (.exportNet format output)
    | _, _ => .error .missingArgument

end Given

end EventNet.CommandLine
