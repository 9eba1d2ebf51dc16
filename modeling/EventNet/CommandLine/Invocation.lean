/-!
# What a command line asks for

A net is taken from a file and then run many times, run once step by step, or exported.
What is not given on the command line is left to the settings.
-/

set_option autoImplicit false

namespace EventNet

/-- A format in which nets are exported. -/
inductive ExportFormat where
  | json
  | ron
  | dot
  | pnml
  deriving DecidableEq

/-- The format with a name. -/
def ExportFormat.ofName? : String → Option ExportFormat
  | "json" => some json
  | "ron" => some ron
  | "dot" => some dot
  | "pnml" => some pnml
  | _ => none

/-- What is done with a net. -/
inductive Mode where
  /-- Run it many times, and write an audit log and a trace document. -/
  | batch (runs steps : Option Nat) (seed : Option UInt64) (csv json : Option String)
  /-- Run it once along a story, and print every step. -/
  | simulate (steps : Option Nat) (seed : Option UInt64) (story : List String)
  /-- Write it to a file. -/
  | exportNet (format : ExportFormat) (output : String)
  deriving DecidableEq

/-- What a command line asks for. -/
structure Invocation where
  /-- The path of the source text of the net. -/
  file : String
  /-- The path of the settings. -/
  config : Option String
  /-- Details are logged. -/
  verbose : Bool
  mode : Mode
  deriving DecidableEq

end EventNet
