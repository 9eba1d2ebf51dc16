import EventNet.Proofs.Net.Json
import EventNet.Report.Document

/-!
# Traces survive their documents

The text of a list of traces is read back as this list, with its labels, instances and entries
of markings in the order in which they were written (`traces_survive`). Labels may be any texts;
the numbers have the bits that they have in documents, and a seed has all of its 64.

The text is the same in a document of its own and in a trace document, except that it is
indented there by one level. So the traces also come out of the part of a trace document that
holds them, whatever net and statistics stand around it.
-/

set_option autoImplicit false

namespace EventNet

/-- The numbers of a step fit into a document. -/
structure StepRecord.NumbersFit (record : StepRecord) : Prop where
  step : record.step ≤ maxSize
  instances : ∀ transition ∈ record.firedInstances, transition ≤ maxId

/-- The numbers of a trace fit into a document. -/
structure Trace.NumbersFit (trace : Trace) : Prop where
  steps : ∀ record ∈ trace.steps, record.NumbersFit
  storyProgress : trace.storyProgress ≤ maxSize

namespace Json

theorem recovers_size {number : Nat} (fits : number ≤ maxSize) :
    Decoder.size.Recovers (nat number) number :=
  Decoder.recovers_nat fits (by decide)

theorem recovers_snapshot (snapshot : Snapshot) :
    (Decoder.labelMap (Decoder.bool : NetDecoder Bool)).Recovers (ofLabelMap .bool snapshot)
      snapshot :=
  Decoder.recovers_labelMap fun entry _ => Decoder.recovers_bool entry.2

theorem recovers_stepRecord {record : StepRecord} (fits : record.NumbersFit) :
    Decoder.stepRecord.Recovers (ofStepRecord record) record := by
  refine Decoder.recovers_ofFields (.map (.before ?step (.before ?labels
    (.before ?instances ?marking (by simp)) (by simp)) (by simp)) _)
  case step => exact recovers_size fits.step
  case labels => exact Decoder.recovers_list fun label _ => Decoder.recovers_string label
  case instances => exact recovers_ids fits.instances
  case marking => exact RecordFields.recovers_required _ (recovers_snapshot record.marking)

/-- The seed is a number of 64 bits, and is made of this number again. -/
theorem recovers_trace {trace : Trace} (fits : trace.NumbersFit) :
    Decoder.trace.Recovers (ofTrace trace) trace := by
  have recovered : Decoder.trace.Recovers (ofTrace trace)
      { trace with seed := trace.seed.toNat.toUInt64 } := by
    refine Decoder.recovers_ofFields (.map (.before ?seed (.before ?steps (.before ?quiescent
      (.before ?final ?progress (by simp)) (by simp)) (by simp)) (by simp)) _)
    case seed => exact recovers_size (Nat.le_of_lt_succ trace.seed.toNat_lt)
    case steps =>
      refine Decoder.recovers_list fun record listed => ?_
      exact recovers_stepRecord (fits.steps record listed)
    case quiescent => exact Decoder.recovers_bool _
    case final => exact recovers_snapshot trace.finalMarking
    case progress => exact RecordFields.recovers_defaulted _ _ (recovers_size fits.storyProgress)
  rwa [Nat.toUInt64, UInt64.ofNat_toNat] at recovered

/-- The text of a value that stands inside another one, so many levels deep. -/
def textAt (depth : Nat) (value : Json) : String := String.ofList (value.render depth)

/-- The parts of a trace document stand one behind the other. -/
theorem text_ofTraceDocument (net : Net) (traces : List Trace) (statistics : Statistics) :
    (TraceDocument.mk net traces statistics).text =
      "\x7b\n  \"net\": " ++ (ofNet net).textAt 1 ++
        ",\n  \"traces\": " ++ (list ofTrace traces).textAt 1 ++
          ",\n  \"statistics\": " ++ (ofStatistics statistics).textAt 1 ++ "\n\x7d" := by
  have opening : "\x7b\n  \"net\": ".toList = '{' :: newLine 1 ++ quoted "net" ++ [':', ' '] := rfl
  have middle : ",\n  \"traces\": ".toList =
      ',' :: newLine 1 ++ quoted "traces" ++ [':', ' '] := rfl
  have last : ",\n  \"statistics\": ".toList =
      ',' :: newLine 1 ++ quoted "statistics" ++ [':', ' '] := rfl
  have closing : "\n\x7d".toList = newLine 0 ++ ['}'] := rfl
  rw [← String.toList_inj, TraceDocument.text, Json.text, ofTraceDocument]
  simp only [String.toList_append, textAt, String.toList_ofList, opening, middle, last, closing,
    render, renderFields, List.append_assoc, List.cons_append, List.nil_append]

end Json

/-- **Traces are read back as they were written**, from a document of their own and from the
part of a trace document that holds them. -/
theorem traces_survive {traces : List Trace} (fit : ∀ trace ∈ traces, trace.NumbersFit) :
    (∀ depth : Nat,
      Json.Decoder.trace.list.run ((Json.list Json.ofTrace traces).textAt depth) = .ok traces) ∧
    ∀ (net : Net) (statistics : Statistics), (TraceDocument.mk net traces statistics).text =
      "\x7b\n  \"net\": " ++ (Json.ofNet net).textAt 1 ++
        ",\n  \"traces\": " ++ (Json.list Json.ofTrace traces).textAt 1 ++
          ",\n  \"statistics\": " ++ (Json.ofStatistics statistics).textAt 1 ++ "\n\x7d" := by
  have recovered := Json.Decoder.recovers_list fun trace listed =>
    Json.recovers_trace (fit trace listed)
  refine ⟨fun depth => ?_, fun net statistics => Json.text_ofTraceDocument net traces statistics⟩
  exact (Json.Decoder.run_render recovered.plain _ depth).trans recovered.decoded

/-- The greatest numbers, names that need escapes, and a marking that is not in the order of its
names. -/
def farTrace : Trace where
  seed := 0xffffffffffffffff
  steps := [{
    step := 18446744073709551615
    firedLabels := ["\"", "", "\n\\é"]
    firedInstances := [4294967295, 0]
    marking := ⟨[("b", true), ("a", false), ("", true)], by decide⟩ }]
  quiescent := true
  finalMarking := LabelMap.empty
  storyProgress := 18446744073709551615

theorem farTrace_survives :
    (∀ trace ∈ [farTrace], trace.NumbersFit) ∧
      Json.Decoder.trace.list.run ((Json.list Json.ofTrace [farTrace]).textAt 1) =
        .ok [farTrace] := by
  have fit : ∀ trace ∈ [farTrace], trace.NumbersFit := by
    refine List.forall_mem_singleton.2 ⟨List.forall_mem_singleton.2 ⟨?_, ?_⟩, ?_⟩ <;> decide
  exact ⟨fit, (traces_survive fit).1 1⟩

end EventNet
