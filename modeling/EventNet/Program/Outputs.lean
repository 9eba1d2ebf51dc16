import EventNet.CommandLine.Invocation
import EventNet.Host
import EventNet.Net.Dot
import EventNet.Net.Pnml
import EventNet.Net.Ron
import EventNet.Program.Failure
import EventNet.Report.Audit
import EventNet.Report.Document

/-!
# Outputs of the program

Nets in an export format, audit logs and trace documents are written to files.
-/

set_option autoImplicit false

namespace EventNet

variable {m : Type → Type} [Monad m] [Host m]

/-- Writes the audit log of runs to a file, and gives the number of its rows. -/
def saveAudit (path : String) (traces : List Trace) : m (Except FileError Nat) := do
  let (rows, table) := Audit.table traces
  match ← Host.write path table with
  | .error error => return .error error
  | .ok _ =>
    Host.record (.info ("wrote " ++ toString rows ++ " audit rows to " ++ path))
    return .ok rows

/-- Writes a trace document to a file. -/
def TraceDocument.save (document : TraceDocument) (path : String) : m (Except FileError Unit) := do
  match ← Host.write path document.text with
  | .error error => return .error error
  | .ok _ =>
    let count := toString document.traces.length
    Host.record (.info ("wrote " ++ count ++ " traces to " ++ path))
    return .ok ()

namespace ExportFormat

/-- The text of a net in a format. -/
def render (net : Net) : ExportFormat → String
  | json => net.toJson
  | ron => net.toRon
  | dot => net.toDot
  | pnml => net.toPnml

/-- The failure of writing a net to a file in a format. -/
def failure (path : String) (error : FileError) : ExportFormat → Failure
  | dot => (Failure.ofFile error).within ("failed to write " ++ path)
  | _ => Failure.ofSaving error

end ExportFormat

end EventNet
