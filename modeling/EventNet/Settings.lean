import EventNet.Batch
import EventNet.Report.Summary
import EventNet.Toml.Reading

/-!
# Settings

Values that a user keeps in a TOML file, so that they need not be given every time. A
file may leave any of them out. Whatever else it holds is nobody's business here, but
it must be TOML.
-/

set_option autoImplicit false

namespace EventNet

/-- The settings. -/
structure Settings where
  /-- The number of runs of a batch. -/
  runs : Nat := 100
  /-- The budget of steps of a run in a batch. -/
  steps : Nat := 50
  /-- The budget of steps of a single run. -/
  simulateSteps : Nat := 20
  /-- Where the audit log goes. -/
  csv : String := "output/audit.csv"
  /-- Where the trace document goes. -/
  json : String := "output/traces.json"
  seed : Option UInt64 := none
  /-- How many final markings a summary shows. -/
  summaryTop : Nat := Summary.defaultTop
  deriving DecidableEq

namespace Settings

/-- A value that counts something. It must fit into 64 bits. -/
def count? : Toml → Option Nat
  | .integer (.ofNat value) => if value < Nat.pow 2 64 then some value else none
  | _ => none

/-- A value that is a path. -/
def path? : Toml → Option String
  | .string text => some text
  | _ => none

/-- The value of a key, or another one if the key is not there. It must be a fitting value. -/
def entry? {α : Type} (entries : Toml.Entries) (key : String) (decode : Toml → Option α)
    (missing : α) : Option α :=
  match entries.lookup key with
  | none => some missing
  | some value => decode value

/-- The settings of a document. -/
def ofEntries? (entries : Toml.Entries) : Option Settings := do
  let standard : Settings := {}
  let runs ← entry? entries "runs" count? standard.runs
  let steps ← entry? entries "steps" count? standard.steps
  let simulateSteps ← entry? entries "simulate_steps" count? standard.simulateSteps
  let csv ← entry? entries "csv" path? standard.csv
  let json ← entry? entries "json" path? standard.json
  let seed ← entry? entries "seed" (fun value => (count? value).map fun n => some n.toUInt64) none
  let summaryTop ← entry? entries "summary_top" count? standard.summaryTop
  return { runs, steps, simulateSteps, csv, json, seed, summaryTop }

/-- The settings of a text. -/
def ofText? (text : String) : Option Settings := Toml.read? text >>= ofEntries?

/-- The plan of a batch. What is given goes before the settings. -/
def plan (settings : Settings) (runs steps : Option Nat) (seed : Option UInt64) : BatchPlan where
  trials := runs.getD settings.runs
  steps := steps.getD settings.steps
  seed := seed.or settings.seed

end Settings

end EventNet
