/-!
# Log records

What a computation reports beside its result. Computations are pure: they return the
records they made, in order, and a reader of the log keeps those up to a level.
-/

set_option autoImplicit false

namespace EventNet

/-- How much a record matters, the gravest first. -/
inductive Level where
  | error
  | warn
  | info
  | debug
  deriving DecidableEq

namespace Level

/-- The place of a level in the order from grave to minor. -/
def rank : Level → Nat
  | error => 0
  | warn => 1
  | info => 2
  | debug => 3

/-- The word that stands before a record of this level. -/
def word : Level → String
  | error => "ERROR"
  | warn => "WARN"
  | info => "INFO"
  | debug => "DEBUG"

/-- The level that a lower-case word names. -/
def ofName? : String → Option Level
  | "error" => some error
  | "warn" => some warn
  | "info" => some info
  | "debug" => some debug
  | _ => none

end Level

/-- One line of the log. -/
structure LogRecord where
  level : Level
  text : String
  deriving DecidableEq

/-- The records of a computation, in order. -/
abbrev Log := List LogRecord

namespace LogRecord

/-- A record for an event that breaks what was asked for. -/
def error (text : String) : LogRecord := ⟨.error, text⟩

/-- A record for something doubtful in the input. -/
def warn (text : String) : LogRecord := ⟨.warn, text⟩

/-- A record for the progress of the work. -/
def info (text : String) : LogRecord := ⟨.info, text⟩

/-- A record for a detail of the work. -/
def debug (text : String) : LogRecord := ⟨.debug, text⟩

/-- The record as one line. -/
def line (record : LogRecord) : String := record.level.word ++ " " ++ record.text

end LogRecord

/-- The lines of the records that are at least as grave as `level`. -/
def Log.linesUpTo (log : Log) (level : Level) : List String :=
  (log.filter fun record => record.level.rank ≤ level.rank).map LogRecord.line

end EventNet
