import EventNet.Proofs.Batch.Accumulation
import Mathlib.Data.List.Forall2

/-!
# What statistics say

Statistics of traces are described without going through the traces in any order: how many of
them have a property, how often a label stands in them, and which steps were the first ones in
which it fired (`LabelStatistics.Summarizes`, `Statistics.Summarizes`). Labels and numbers of
steps are whatever the traces have, whether they come from runs of the net or not.

A mean is one division of two numbers, of which the first is an exact sum. The texts of final
markings stand once each, and which one stands before which is determined by their counts and
their bytes.
-/

set_option autoImplicit false

namespace EventNet

/-! ## First steps -/

/-- A label fires first in a step with this number. -/
def Trace.FiresFirst (trace : Trace) (label : String) (step : Nat) : Prop :=
  ∃ before record after, trace.steps = before ++ record :: after ∧
    (∀ earlier ∈ before, label ∉ earlier.firedLabels) ∧
      label ∈ record.firedLabels ∧ record.step = step

theorem firstFiring?_eq_some_iff {trace : Trace} {label : String} {step : Nat} :
    trace.firstFiring? label = some step ↔ trace.FiresFirst label step := by
  simp only [Trace.firstFiring?, Option.map_eq_some_iff, List.find?_eq_some_iff_append,
    List.contains_eq_mem, decide_eq_true_eq, Bool.not_eq_true', decide_eq_false_iff_not,
    Trace.FiresFirst]
  constructor
  · rintro ⟨record, ⟨fires, before, after, whole, none⟩, same⟩
    exact ⟨before, record, after, whole, none, fires, same⟩
  · rintro ⟨before, record, after, whole, none, fires, same⟩
    exact ⟨record, ⟨fires, before, after, whole, none⟩, same⟩

/-- The runs in which a label has fired and the steps in which it fired first. -/
theorem forall₂_firesFirst (traces : List Trace) (label : String) :
    List.Forall₂ (fun trace step => trace.FiresFirst label step)
      (traces.filter fun trace => decide (label ∈ trace.firedLabels))
      (traces.filterMap fun trace => trace.firstFiring? label) := by
  induction traces with
  | nil => exact .nil
  | cons trace traces ih =>
    have some_iff := isSome_firstFiring? label trace
    cases found : trace.firstFiring? label with
    | none =>
      rw [found, Option.isSome_none, eq_comm] at some_iff
      rw [List.filter_cons, some_iff, List.filterMap_cons, found]
      exact ih
    | some step =>
      rw [found, Option.isSome_some, eq_comm] at some_iff
      rw [List.filter_cons, some_iff, List.filterMap_cons, found]
      exact .cons (firstFiring?_eq_some_iff.1 found) ih

/-! ## Means -/

/-- A mean is one division of the sum by the number of summands. -/
theorem mean_of_pos {numbers : List Nat} (positive : 0 < numbers.length) :
    mean numbers = some (Float.ofNat numbers.sum / Float.ofNat numbers.length) := by
  have nonempty : ¬numbers.isEmpty = true := by
    rw [List.isEmpty_iff, ← List.length_eq_zero_iff]
    exact Nat.ne_of_gt positive
  rw [mean, if_neg nonempty, List.sum_eq_foldr]

theorem filterMap_stepsToQuiescence (traces : List Trace) :
    traces.filterMap Trace.stepsToQuiescence =
      (traces.filter Trace.quiescent).map fun trace => trace.steps.length := by
  induction traces with
  | nil => rfl
  | cons trace traces ih =>
    cases quiescent : trace.quiescent <;> simp [Trace.stepsToQuiescence, quiescent, ih]

/-! ## Statistics -/

/-- What is said of a label is what has become of it in the traces. -/
structure LabelStatistics.Summarizes (entry : LabelStatistics) (traces : List Trace)
    (label : String) : Prop where
  trialsFired_eq : entry.trialsFired =
    traces.countP fun trace => decide (∃ record ∈ trace.steps, label ∈ record.firedLabels)
  totalFirings_eq : entry.totalFirings =
    (traces.flatMap fun trace => trace.steps.flatMap StepRecord.firedLabels).count label
  mean_eq_none_iff : entry.meanFirstFireStep = none ↔ entry.trialsFired = 0
  /-- Otherwise it is the mean of the first steps, one for each run in which the label fired. -/
  mean_eq : 0 < entry.trialsFired → ∃ firsts,
    List.Forall₂ (fun trace step => trace.FiresFirst label step)
      (traces.filter fun trace => decide (∃ record ∈ trace.steps, label ∈ record.firedLabels))
      firsts ∧
    entry.meanFirstFireStep = some (Float.ofNat firsts.sum / Float.ofNat entry.trialsFired)

/-- Statistics of these traces. -/
structure Statistics.Summarizes (statistics : Statistics) (net : Net) (steps : Nat)
    (traces : List Trace) : Prop where
  trials_eq : statistics.trials = traces.length
  steps_eq : statistics.steps = steps
  /-- There is one entry for every bus, in the order of the buses. -/
  keys_eq : statistics.labels.keys = net.buses.keys
  labels_eq : ∀ label ∈ net.buses.keys, ∃ entry,
    statistics.labels.find? label = some entry ∧ entry.Summarizes traces label
  quiescentTrials_eq : statistics.quiescentTrials = traces.countP Trace.quiescent
  mean_eq_none_iff : statistics.meanStepsToQuiescence = none ↔ statistics.quiescentTrials = 0
  mean_eq : 0 < statistics.quiescentTrials → statistics.meanStepsToQuiescence =
    some (Float.ofNat ((traces.filter Trace.quiescent).map fun trace => trace.steps.length).sum /
      Float.ofNat statistics.quiescentTrials)
  /-- Every text of a final marking stands there with the number of the runs that end in it. -/
  mem_finalMarkings_iff : ∀ (text : String) (count : Nat),
    (text, count) ∈ statistics.finalMarkings ↔
      0 < count ∧ count = traces.countP fun trace => trace.finalText == text
  texts_nodup : (statistics.finalMarkings.map Prod.fst).Nodup
  counts_sum : (statistics.finalMarkings.map Prod.snd).sum = traces.length
  /-- Frequent texts come first, and equally frequent ones are in the order of their bytes. -/
  sorted : statistics.finalMarkings.Pairwise fun first second =>
    second.2 < first.2 ∨ first.2 = second.2 ∧ Text.bytes first.1 < Text.bytes second.1

section Traces

variable (traces : List Trace)

theorem fires_iff (trace : Trace) (label : String) :
    label ∈ trace.firedLabels ↔ ∃ record ∈ trace.steps, label ∈ record.firedLabels :=
  List.mem_flatMap

theorem labelStatistics_summarizes (label : String) :
    (labelStatistics traces label).Summarizes traces label where
  trialsFired_eq := by
    simp only [trialsFired_eq_countP, fires_iff]
  totalFirings_eq := totalFirings_eq_count traces label
  mean_eq_none_iff := meanFirstFireStep_eq_none_iff traces label
  mean_eq := by
    intro positive
    have firsts := forall₂_firesFirst traces label
    simp only [fires_iff] at firsts
    exact ⟨_, firsts, mean_of_pos positive⟩

variable (net : Net) (steps : Nat)

/-- The counts are those of the texts. -/
theorem counts_finalMarkings :
    (Statistics.ofTraces net steps traces).finalMarkings.map Prod.snd =
      ((Statistics.ofTraces net steps traces).finalMarkings.map Prod.fst).map fun text =>
        (traces.map Trace.finalText).count text := by
  rw [List.map_map]
  refine List.map_congr_left ?_
  rintro ⟨text, count⟩ listed
  exact (Statistics.mem_finalMarkings.1 listed).2

theorem summarizes_ofTraces :
    (Statistics.ofTraces net steps traces).Summarizes net steps traces where
  trials_eq := rfl
  steps_eq := rfl
  keys_eq := LabelMap.keys_mapLabels _ _
  labels_eq := by
    intro label listed
    exact ⟨_, LabelMap.find?_mapLabels listed _, labelStatistics_summarizes traces label⟩
  quiescentTrials_eq := by
    rw [Statistics.ofTraces, filterMap_stepsToQuiescence, List.length_map,
      List.countP_eq_length_filter]
  mean_eq_none_iff := mean_eq_none_iff
  mean_eq := by
    intro positive
    rw [← filterMap_stepsToQuiescence]
    exact mean_of_pos positive
  mem_finalMarkings_iff := by
    intro text count
    rw [Statistics.mem_finalMarkings, List.count_eq_countP, List.countP_map]
    rfl
  texts_nodup := Statistics.nodup_finalMarkings net steps traces
  counts_sum := by
    have listed : ∀ text ∈ traces.map Trace.finalText,
        text ∈ (Statistics.ofTraces net steps traces).finalMarkings.map Prod.fst := by
      intro text occurs
      have entry : (text, _) ∈ (Statistics.ofTraces net steps traces).finalMarkings :=
        Statistics.mem_finalMarkings.2 ⟨List.count_pos_iff.2 occurs, rfl⟩
      exact List.mem_map_of_mem entry
    rw [counts_finalMarkings,
      sum_count_eq_length (Statistics.nodup_finalMarkings net steps traces) listed, List.length_map]
  sorted := Statistics.pairwise_finalMarkings net steps traces

end Traces

/-- **Statistics say of traces what they should**, and neither the order of the traces nor the
order in which hash tables are listed makes a difference. -/
theorem statistics_summarize (net : Net) (steps : Nat) (traces : List Trace) :
    (Statistics.ofTraces net steps traces).Summarizes net steps traces ∧
      (∀ statistics, Accumulated net steps traces statistics ↔
        statistics = Statistics.ofTraces net steps traces) ∧
      ∀ other : List Trace, other.Perm traces →
        Statistics.ofTraces net steps other = Statistics.ofTraces net steps traces := by
  refine ⟨summarizes_ofTraces traces net steps, fun statistics => accumulated_iff, ?_⟩
  intro other permuted
  exact ofTraces_perm permuted net steps

end EventNet
