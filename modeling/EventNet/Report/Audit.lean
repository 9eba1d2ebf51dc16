import EventNet.Trace

/-!
# The audit log

A table in CSV with a row for every bus that fired: the number of the run from zero, the
number of the step from one, and the label. Buses that fired together have the same
step number.

A label is put between quotation marks if it holds a comma, a quotation mark or the end
of a line; quotation marks in it are then doubled.
-/

set_option autoImplicit false

namespace EventNet.Audit

/-- The names of the columns. -/
def header : String := "run_id,step,event_type"

/-- A character that a plain field cannot hold. -/
def needsQuotes (c : Char) : Bool := c == ',' || c == '"' || c == '\n' || c == '\r'

/-- A character of a field between quotation marks. -/
def doubled (c : Char) : List Char := if c = '"' then ['"', '"'] else [c]

/-- A field of a row. -/
def field (text : String) : String :=
  if text.toList.any needsQuotes then
    String.ofList ('"' :: text.toList.flatMap doubled ++ ['"'])
  else text

/-- An event: the run, the step and the label. -/
structure Event where
  run : Nat
  step : Nat
  label : String
  deriving DecidableEq

/-- The row of an event. -/
def Event.row (event : Event) : String :=
  toString event.run ++ "," ++ toString event.step ++ "," ++ field event.label ++ "\n"

/-- The events of a run. -/
def eventsOf (run : Nat) (trace : Trace) : List Event :=
  trace.steps.flatMap fun record =>
    record.firedLabels.map fun label => { run, step := record.step, label }

/-- The events of runs, in order. -/
def events (traces : List Trace) : List Event :=
  traces.zipIdx.flatMap fun (trace, run) => eventsOf run trace

/-- The table and the number of its rows below the header. -/
def table (traces : List Trace) : Nat × String :=
  let rows := (events traces).map Event.row
  (rows.length, header ++ "\n" ++ String.join rows)

end EventNet.Audit
