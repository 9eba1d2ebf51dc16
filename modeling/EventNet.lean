import EventNet.Batch
import EventNet.Builder
import EventNet.CommandLine.Invocation
import EventNet.CommandLine.Options
import EventNet.CommandLine.Reading
import EventNet.CommandLine.Words
import EventNet.Decimal.Binary
import EventNet.Decimal.Fixed
import EventNet.Decimal.Range
import EventNet.Decimal.Shortest
import EventNet.Fields
import EventNet.Files.Basic
import EventNet.Files.Tree
import EventNet.Firing.Enabled
import EventNet.Firing.Step
import EventNet.Host
import EventNet.Json.Basic
import EventNet.Json.Decoder
import EventNet.Json.Number
import EventNet.Json.Reading
import EventNet.Json.Token
import EventNet.LabelMap
import EventNet.Log
import EventNet.Main
import EventNet.Marking
import EventNet.Net.Basic
import EventNet.Net.Consistency
import EventNet.Net.Diagnosis
import EventNet.Net.Dot
import EventNet.Net.Growth
import EventNet.Net.Inspect
import EventNet.Net.Json
import EventNet.Net.Pnml
import EventNet.Net.Ron
import EventNet.Notation.Grammar
import EventNet.Notation.Layout
import EventNet.Notation.Source
import EventNet.Program.Command
import EventNet.Program.Failure
import EventNet.Program.Inputs
import EventNet.Program.Outputs
import EventNet.Program.Run
import EventNet.Proofs.Firing.Order
import EventNet.Proofs.Net.Consistent
import EventNet.Random.ChaCha
import EventNet.Random.Shuffle
import EventNet.Random.Source
import EventNet.Reader
import EventNet.Report.Audit
import EventNet.Report.Document
import EventNet.Report.Summary
import EventNet.Report.Transcript
import EventNet.Ron.Basic
import EventNet.Ron.Escape
import EventNet.Ron.Extension
import EventNet.Ron.Number
import EventNet.Ron.Reading
import EventNet.Ron.Token
import EventNet.Run
import EventNet.Settings
import EventNet.Statement
import EventNet.Statistics
import EventNet.Text.Blank
import EventNet.Text.Hexadecimal
import EventNet.Text.Identifier
import EventNet.Text.LetterOrNumber
import EventNet.Text.Quoted
import EventNet.Text.Visible
import EventNet.Toml.Basic
import EventNet.Toml.Reading
import EventNet.Toml.Scalar
import EventNet.Toml.Text
import EventNet.Trace
import EventNet.Proofs.Firing.Enabled
import EventNet.Proofs.Firing.Selection
import EventNet.Proofs.Firing.Step
import EventNet.Proofs.Firing.Effect
import EventNet.Proofs.Run.Path
import EventNet.Proofs.Run.Trace
import EventNet.Proofs.Firing.Session
import EventNet.Proofs.Build.WellBuilt
import EventNet.Proofs.Build.Calls
import EventNet.Proofs.Guarded.Lists
import EventNet.Proofs.Guarded.Net
import EventNet.Proofs.Guarded.Run
import EventNet.Proofs.Notation.Layout
import EventNet.Proofs.Notation.Grammar
import EventNet.Proofs.Notation.Source
import EventNet.Proofs.Json.Document
import EventNet.Proofs.Fields
import EventNet.Proofs.Json.Decoder
import EventNet.Proofs.Net.Json
import EventNet.Proofs.Guarded.Validation
import EventNet.Proofs.Firing.Quiescence
import EventNet.Proofs.Firing.Preference
import EventNet.Proofs.Run.Confluence
import EventNet.Proofs.Run.Budget
import EventNet.Proofs.Run.Story
import EventNet.Proofs.Run.Influence
import EventNet.Proofs.Batch.Statistics
import EventNet.Proofs.Batch.Split
import EventNet.Proofs.Notation.Wording
import EventNet.Proofs.Notation.Regions
import EventNet.Proofs.Notation.Joining
import EventNet.Proofs.Notation.Resumption
import EventNet.Proofs.Build.Conflicts
import EventNet.Proofs.Notation.Compilation
import EventNet.Proofs.Batch.Reports
import EventNet.Proofs.Run.Facts
import EventNet.Proofs.Run.Indices
import EventNet.Proofs.Run.Barren
import EventNet.Proofs.Net.Accepted
import EventNet.Proofs.Batch.FinalMarkings
import EventNet.Proofs.Report.Document
import EventNet.Proofs.Build.Instances
import EventNet.Proofs.Build.Faults
import EventNet.Proofs.Ron.Words
import EventNet.Proofs.Ron.Document
import EventNet.Proofs.Ron.Decoder
import EventNet.Proofs.Net.Ron
import EventNet.Proofs.Build.Places
import EventNet.Proofs.Batch.Accumulation
import EventNet.Proofs.Batch.Meaning
import EventNet.Proofs.Text.Markup
import EventNet.Proofs.Pnml.Objects
import EventNet.Proofs.Pnml.Document
import EventNet.Proofs.Net.Construction
import EventNet.Proofs.Notation.Offsets
import EventNet.Proofs.Notation.Rounds
import EventNet.Proofs.Notation.Positions
import EventNet.Proofs.Dot.Labels
import EventNet.Proofs.Dot.Graph
import EventNet.Proofs.Dot.Document
import EventNet.Proofs.Net.Diagnosis
import EventNet.Proofs.Program.System
import EventNet.Proofs.Program.Rejection
