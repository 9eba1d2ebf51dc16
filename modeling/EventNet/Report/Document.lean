import EventNet.Batch
import EventNet.Decimal.Shortest
import EventNet.Net.Json

/-!
# Trace documents

The complete result of a batch for replay: the net, all traces and the statistics, as a
JSON document. Traces and statistics can also be read on their own.
-/

set_option autoImplicit false

namespace EventNet

/-- The complete result of a batch. -/
structure TraceDocument where
  net : Net
  traces : List Trace
  statistics : Statistics

namespace Json

/-! ## Writing -/

/-- A float with its shortest text. -/
def float (value : Float) : Json := .number (Decimal.shortest value)

/-- A step. -/
def ofStepRecord (record : StepRecord) : Json :=
  .object [("step", nat record.step),
    ("fired_labels", list .string record.firedLabels),
    ("fired_instances", list nat record.firedInstances),
    ("marking", ofLabelMap .bool record.marking)]

/-- A trace. -/
def ofTrace (trace : Trace) : Json :=
  .object [("seed", nat trace.seed.toNat),
    ("steps", list ofStepRecord trace.steps),
    ("quiescent", .bool trace.quiescent),
    ("final_marking", ofLabelMap .bool trace.finalMarking),
    ("story_progress", nat trace.storyProgress)]

/-- How a bus fared. -/
def ofLabelStatistics (entry : LabelStatistics) : Json :=
  .object [("trials_fired", nat entry.trialsFired),
    ("mean_first_fire_step", ofOption float entry.meanFirstFireStep),
    ("total_firings", nat entry.totalFirings)]

/-- A counted text. -/
def ofCount (count : String × Nat) : Json := .array [.string count.1, nat count.2]

/-- Statistics. -/
def ofStatistics (statistics : Statistics) : Json :=
  .object [("trials", nat statistics.trials),
    ("steps", nat statistics.steps),
    ("quiescent_trials", nat statistics.quiescentTrials),
    ("mean_steps_to_quiescence", ofOption float statistics.meanStepsToQuiescence),
    ("labels", ofLabelMap ofLabelStatistics statistics.labels),
    ("final_markings", list ofCount statistics.finalMarkings)]

/-- A trace document. -/
def ofTraceDocument (document : TraceDocument) : Json :=
  .object [("net", ofNet document.net),
    ("traces", list ofTrace document.traces),
    ("statistics", ofStatistics document.statistics)]

/-! ## Reading -/

/-- A size. -/
def Decoder.size : NetDecoder Nat := Decoder.nat maxSize

/-- A step. -/
def Decoder.stepRecord : NetDecoder StepRecord :=
  Decoder.ofFields <|
    ((RecordFields.required "step" Decoder.size).both
      ((RecordFields.required "fired_labels" Decoder.string.list).both
        ((RecordFields.required "fired_instances" Decoder.id.list).both
          (RecordFields.required "marking" (Decoder.labelMap Decoder.bool))))).map
      fun (step, firedLabels, firedInstances, marking) =>
        { step, firedLabels, firedInstances, marking }

/-- A trace. One without story progress has followed no story. -/
def Decoder.trace : NetDecoder Trace :=
  Decoder.ofFields <|
    ((RecordFields.required "seed" Decoder.size).both
      ((RecordFields.required "steps" Decoder.stepRecord.list).both
        ((RecordFields.required "quiescent" Decoder.bool).both
          ((RecordFields.required "final_marking" (Decoder.labelMap Decoder.bool)).both
            (RecordFields.defaulted "story_progress" 0 Decoder.size))))).map
      fun (seed, steps, quiescent, finalMarking, storyProgress) =>
        { seed := seed.toUInt64, steps, quiescent, finalMarking, storyProgress }

/-- How a bus fared. -/
def Decoder.labelStatistics : NetDecoder LabelStatistics :=
  Decoder.ofFields <|
    ((RecordFields.required "trials_fired" Decoder.size).both
      ((RecordFields.optional "mean_first_fire_step" Decoder.float).both
        (RecordFields.required "total_firings" Decoder.size))).map
      fun (trialsFired, meanFirstFireStep, totalFirings) =>
        { trialsFired, meanFirstFireStep, totalFirings }

/-- A counted text, as an array of the text and the count. -/
def Decoder.count : NetDecoder (String × Nat)
  | .array items cut =>
    Decoder.ofFields ((RecordFields.required "" Decoder.string).both
      (RecordFields.required "" Decoder.size)) (.array items cut)
  | reading => refuse reading

/-- Statistics. -/
def Decoder.statistics : NetDecoder Statistics :=
  Decoder.ofFields <|
    ((RecordFields.required "trials" Decoder.size).both
      ((RecordFields.required "steps" Decoder.size).both
        ((RecordFields.required "quiescent_trials" Decoder.size).both
          ((RecordFields.optional "mean_steps_to_quiescence" Decoder.float).both
            ((RecordFields.required "labels" (Decoder.labelMap Decoder.labelStatistics)).both
              (RecordFields.required "final_markings" Decoder.count.list)))))).map
      fun (trials, steps, quiescentTrials, meanStepsToQuiescence, labels, finalMarkings) =>
        { trials, steps, quiescentTrials, meanStepsToQuiescence, labels, finalMarkings }

/-- A trace document. -/
def Decoder.traceDocument : NetDecoder TraceDocument :=
  Decoder.ofFields <|
    ((RecordFields.required "net" Decoder.net).both
      ((RecordFields.required "traces" Decoder.trace.list).both
        (RecordFields.required "statistics" Decoder.statistics))).map
      fun (net, traces, statistics) => { net, traces, statistics }

end Json

/-- The result of a batch on a net as a document. -/
def TraceDocument.ofOutcome (net : Net) (outcome : BatchOutcome) : TraceDocument :=
  { net, traces := outcome.traces, statistics := outcome.statistics }

/-- The JSON text of a document. -/
def TraceDocument.text (document : TraceDocument) : String :=
  (Json.ofTraceDocument document).text

end EventNet
