import EventNet.Proofs.Batch.Split
import EventNet.Proofs.Report.Csv
import Mathlib.Algebra.BigOperators.Group.Finset.Basic
import Mathlib.Algebra.GroupWithZero.Nat
import Mathlib.Algebra.Order.BigOperators.Group.List

/-!
# The reports of a batch agree

A batch is reported twice: in a table with a row for every event, and in statistics that count
by label. Both come from the labels that fired in the traces, taken one after another
(`firedLabels`): the table has one row for each of them, and the statistics count them. So as
soon as the labels that fired are labels of the net, the counts of all labels add up to the
number of rows.

In the record of a step no label stands twice, so to count how often a label fired is to count
the records in which it stands, and there are no more of these than the budget allows
(`runBatch_agrees`).
-/

set_option autoImplicit false

namespace EventNet

/-! ## Counting -/

section Counting

variable {α β : Type} [DecidableEq β] {part : α → List β} {items : List α} {item : β}

/-- What occurs in a part occurs in the whole as many times at least. -/
theorem countP_le_count_flatMap :
    items.countP (fun whole => decide (item ∈ part whole)) ≤ (items.flatMap part).count item := by
  induction items with
  | nil => exact Nat.le_refl _
  | cons whole items ih =>
    rw [List.countP_cons, List.flatMap_cons, List.count_append]
    by_cases occurs : item ∈ part whole
    · have positive := List.count_pos_iff.2 occurs
      simp only [occurs, decide_true, if_true]
      omega
    · simp only [occurs, decide_false, Bool.false_eq_true, if_false]
      omega

/-- If nothing occurs twice in a part, an item occurs as often as there are parts with it. -/
theorem countP_eq_count_flatMap (nodup : ∀ whole ∈ items, (part whole).Nodup) :
    items.countP (fun whole => decide (item ∈ part whole)) = (items.flatMap part).count item := by
  induction items with
  | nil => rfl
  | cons whole items ih =>
    obtain ⟨here, others⟩ := List.forall_mem_cons.1 nodup
    rw [List.countP_cons, List.flatMap_cons, List.count_append, ih others, here.count, Nat.add_comm]
    simp only [decide_eq_true_eq]

/-- The counts of different items add up to the number of all, if there are no others. -/
theorem sum_count_eq_length {all : List β} (nodup : all.Nodup) {some : List β}
    (listed : ∀ item ∈ some, item ∈ all) :
    (all.map fun item => some.count item).sum = some.length := by
  have inAll : ∀ item ∈ (some : Multiset β), item ∈ all.toFinset := by
    intro item member
    exact List.mem_toFinset.2 (listed item member)
  have total := Multiset.sum_count_eq_card inAll
  rw [← List.sum_toFinset _ nodup]
  simpa only [Multiset.coe_count, Multiset.coe_card] using total

end Counting

/-! ## Labels that fired -/

/-- The labels that fired in a run, step by step. -/
def Trace.firedLabels (trace : Trace) : List String :=
  trace.steps.flatMap StepRecord.firedLabels

/-- The labels that fired in runs, run by run. -/
def firedLabels (traces : List Trace) : List String := traces.flatMap Trace.firedLabels

section Traces

variable (traces : List Trace) (label : String)

/-- The events are those of the labels that fired. -/
theorem map_label_events : (Audit.events traces).map Audit.Event.label = firedLabels traces := by
  have one (run : Nat) (trace : Trace) :
      (Audit.eventsOf run trace).map Audit.Event.label = trace.firedLabels := by
    simp only [Audit.eventsOf, Trace.firedLabels, List.map_flatMap, List.map_map,
      Function.comp_def, List.map_id']
  rw [Audit.events, List.map_flatMap, firedLabels]
  simp only [one]
  conv_rhs => rw [← List.zipIdx_map_fst 0 traces, List.flatMap_map]

theorem firings_eq (trace : Trace) : trace.firings label = trace.firedLabels.count label := by
  rw [Trace.firings, Trace.firedLabels, List.count_flatMap, List.sum_eq_foldr, List.foldr_map]
  rfl

/-- The statistics count the labels that fired. -/
theorem totalFirings_eq_count :
    (labelStatistics traces label).totalFirings = (firedLabels traces).count label := by
  simp only [labelStatistics, firings_eq]
  rw [firedLabels, List.count_flatMap, List.sum_eq_foldr, List.foldr_map]
  rfl

theorem isSome_firstFiring? (trace : Trace) :
    (trace.firstFiring? label).isSome = decide (label ∈ trace.firedLabels) := by
  rw [Trace.firstFiring?, Option.isSome_map, Bool.eq_iff_iff, List.find?_isSome, decide_eq_true_eq,
    Trace.firedLabels, List.mem_flatMap]
  simp only [List.contains_iff_mem]

/-- The statistics count the runs in which a label has fired. -/
theorem trialsFired_eq_countP :
    (labelStatistics traces label).trialsFired =
      traces.countP fun trace => decide (label ∈ trace.firedLabels) := by
  simp only [labelStatistics, List.length_filterMap_eq_countP, isSome_firstFiring?]

theorem trialsFired_le_totalFirings :
    (labelStatistics traces label).trialsFired ≤ (labelStatistics traces label).totalFirings := by
  rw [trialsFired_eq_countP, totalFirings_eq_count]
  exact countP_le_count_flatMap

/-- A label that has fired at all has fired in some run. -/
theorem trialsFired_eq_zero_iff :
    (labelStatistics traces label).trialsFired = 0 ↔
      (labelStatistics traces label).totalFirings = 0 := by
  rw [trialsFired_eq_countP, totalFirings_eq_count, List.countP_eq_zero, List.count_eq_zero,
    firedLabels, List.mem_flatMap]
  simp only [decide_eq_true_eq, not_exists, not_and]

theorem mean_eq_none_iff {numbers : List Nat} : mean numbers = none ↔ numbers.length = 0 := by
  cases numbers with
  | nil => simp [mean]
  | cons number numbers => simp [mean]

/-- There is a mean of the first steps exactly for a label that has fired. -/
theorem meanFirstFireStep_eq_none_iff :
    (labelStatistics traces label).meanFirstFireStep = none ↔
      (labelStatistics traces label).trialsFired = 0 :=
  mean_eq_none_iff

end Traces

/-! ## Records -/

/-- The record of a step of the net: no label stands twice in it, and all are labels of the
net. -/
structure StepRecord.Listed (net : Net) (record : StepRecord) : Prop where
  fired_nodup : record.firedLabels.Nodup
  fired_known : ∀ label ∈ record.firedLabels, label ∈ net.labels

/-- The name of a transition is the label of a bus. -/
theorem Net.Consistent.mem_labels {net : Net} (consistent : net.Consistent)
    {transition : TransitionId} {name : String} (named : net.nameOf? transition = some name) :
    name ∈ net.labels := by
  obtain ⟨bus, listed, member⟩ := List.mem_flatMap.1
    (consistent.buses_complete.mem_iff.2 (List.mem_range.2 (Net.lt_of_nameOf? named)))
  have same : some name = some bus.1 :=
    named.symm.trans (consistent.bus_named bus listed transition member)
  rw [Option.some.inj same]
  exact List.mem_map_of_mem listed

theorem Net.Describes.listed {net : Net} (consistent : net.Consistent) {record : StepRecord}
    {number : Nat} {fired : Set TransitionId} {before after : Marking}
    (describes : net.Describes record number fired before after) : record.Listed net := by
  refine ⟨describes.choice.labels_nodup, ?_⟩
  intro label member
  have labels : record.firedLabels = (record.firedInstances.filterMap net.nameOf?).eraseDups :=
    describes.choice.labels_eq
  rw [labels, List.mem_eraseDups, List.mem_filterMap] at member
  obtain ⟨transition, -, named⟩ := member
  exact consistent.mem_labels named

/-- A trace of the net within a budget of steps. -/
structure Trace.Listed (net : Net) (budget : Nat) (trace : Trace) : Prop where
  length_le : trace.steps.length ≤ budget
  records : ∀ record ∈ trace.steps, record.Listed net

theorem Net.IsRun.listed {net : Net} (consistent : net.Consistent) {budget : Nat}
    {markings : Nat → Marking} {trace : Trace} (isRun : net.IsRun budget markings trace) :
    trace.Listed net budget := by
  refine ⟨isRun.length_le, ?_⟩
  intro record member
  obtain ⟨count, found⟩ := List.getElem?_of_mem member
  exact (isRun.describes count record found).listed consistent

section Listed

variable {net : Net} {budget : Nat} {traces : List Trace}
  (listed : ∀ trace ∈ traces, trace.Listed net budget)

include listed

theorem mem_labels_of_mem_firedLabels {label : String} (fired : label ∈ firedLabels traces) :
    label ∈ net.labels := by
  obtain ⟨trace, inTraces, inTrace⟩ := List.mem_flatMap.1 fired
  obtain ⟨record, inSteps, inRecord⟩ := List.mem_flatMap.1 inTrace
  exact ((listed trace inTraces).records record inSteps).fired_known label inRecord

/-- **To count how often a label fired is to count the records in which it stands.** -/
theorem countP_records_eq_totalFirings (label : String) :
    (traces.flatMap Trace.steps).countP (fun record => decide (label ∈ record.firedLabels)) =
      (labelStatistics traces label).totalFirings := by
  have nodup : ∀ record ∈ traces.flatMap Trace.steps, record.firedLabels.Nodup := by
    intro record member
    obtain ⟨trace, inTraces, inSteps⟩ := List.mem_flatMap.1 member
    exact ((listed trace inTraces).records record inSteps).fired_nodup
  rw [countP_eq_count_flatMap nodup, totalFirings_eq_count, firedLabels, List.flatMap_assoc]
  rfl

/-- There are no more records than the budgets of all runs allow. -/
theorem length_records_le : (traces.flatMap Trace.steps).length ≤ traces.length * budget := by
  have short : ∀ count ∈ traces.map fun trace => trace.steps.length, count ≤ budget :=
    List.forall_mem_map.2 fun trace member => (listed trace member).length_le
  have total := List.sum_le_card_nsmul _ _ short
  rw [List.length_map, ← List.length_flatMap] at total
  exact total

/-- The rows of the table are as many as the firings of all labels. -/
theorem length_events_eq_sum :
    (Audit.events traces).length =
      (net.labels.map fun label => (labelStatistics traces label).totalFirings).sum := by
  have known : ∀ label ∈ firedLabels traces, label ∈ net.labels := by
    intro label fired
    exact mem_labels_of_mem_firedLabels listed fired
  have rows := congrArg List.length (map_label_events traces)
  rw [List.length_map] at rows
  simp only [rows, totalFirings_eq_count]
  exact (sum_count_eq_length net.buses.nodup known).symm

end Listed

/-! ## Reports -/

/-- The rows, the records and the statistics say the same about a label. -/
structure BatchOutcome.AgreesOn (outcome : BatchOutcome) (rows : List (List String))
    (label : String) (entry : LabelStatistics) : Prop where
  entry_found : outcome.statistics.labels.find? label = some entry
  /-- The label is the third field of its rows. -/
  rows_eq : rows.countP (fun row => row[2]? == some label) = entry.totalFirings
  records_eq : (outcome.traces.flatMap Trace.steps).countP
    (fun record => decide (label ∈ record.firedLabels)) = entry.totalFirings
  totalFirings_le : entry.totalFirings ≤ outcome.statistics.trials * outcome.statistics.steps
  trialsFired_le_trials : entry.trialsFired ≤ outcome.statistics.trials
  trialsFired_le_totalFirings : entry.trialsFired ≤ entry.totalFirings
  trialsFired_eq_zero_iff : entry.trialsFired = 0 ↔ entry.totalFirings = 0
  mean_eq_none_iff : entry.meanFirstFireStep = none ↔ entry.totalFirings = 0

/-- The reports of a batch agree with one another. -/
structure BatchOutcome.Agrees (net : Net) (plan : BatchPlan) (outcome : BatchOutcome) : Prop where
  trials_eq : outcome.statistics.trials = plan.trials
  steps_eq : outcome.statistics.steps = plan.steps
  keys_eq : outcome.statistics.labels.keys = net.labels
  fired_known : ∀ trace ∈ outcome.traces, ∀ record ∈ trace.steps,
    ∀ label ∈ record.firedLabels, label ∈ outcome.statistics.labels.keys
  fired_nodup : ∀ trace ∈ outcome.traces, ∀ record ∈ trace.steps, record.firedLabels.Nodup
  /-- The number of rows is that of all firings. -/
  rows_eq : (Audit.table outcome.traces).1 =
    (outcome.statistics.labels.entries.map fun entry => entry.2.totalFirings).sum
  table_agrees : ∃ rows,
    Csv.read? (Audit.table outcome.traces).2 = some (Csv.headerFields :: rows) ∧
      rows.length = (Audit.table outcome.traces).1 ∧
        ∀ label ∈ net.labels, ∃ entry, outcome.AgreesOn rows label entry

/-- What is read from the table has a row for a label as often as the label has fired. -/
theorem countP_rows_eq_totalFirings (traces : List Trace) (label : String) :
    ((Audit.events traces).map Csv.fieldsOf).countP (fun row => row[2]? == some label) =
      (labelStatistics traces label).totalFirings := by
  rw [totalFirings_eq_count, ← map_label_events, List.count_eq_countP, List.countP_map,
    List.countP_map]
  rfl

section Outcome

variable {net : Net} {steps : Nat} {traces : List Trace}
  (listed : ∀ trace ∈ traces, trace.Listed net steps)

include listed

theorem agreesOn_of_listed {label : String} (known : label ∈ net.labels) :
    BatchOutcome.AgreesOn { traces, statistics := Statistics.ofTraces net steps traces }
      ((Audit.events traces).map Csv.fieldsOf) label (labelStatistics traces label) where
  entry_found := LabelMap.find?_mapLabels known _
  rows_eq := countP_rows_eq_totalFirings traces label
  records_eq := countP_records_eq_totalFirings listed label
  totalFirings_le := by
    rw [← countP_records_eq_totalFirings listed]
    exact Nat.le_trans List.countP_le_length (length_records_le listed)
  trialsFired_le_trials := by
    rw [trialsFired_eq_countP]
    exact List.countP_le_length
  trialsFired_le_totalFirings := trialsFired_le_totalFirings traces label
  trialsFired_eq_zero_iff := trialsFired_eq_zero_iff traces label
  mean_eq_none_iff :=
    (meanFirstFireStep_eq_none_iff traces label).trans (trialsFired_eq_zero_iff traces label)

theorem agrees_of_listed {plan : BatchPlan} (trials : traces.length = plan.trials)
    (budget : plan.steps = steps) :
    BatchOutcome.Agrees net plan
      { traces, statistics := Statistics.ofTraces net steps traces } where
  trials_eq := trials
  steps_eq := budget.symm
  keys_eq := LabelMap.keys_mapLabels _ _
  fired_known := by
    intro trace inTraces record inSteps label fired
    rw [Statistics.ofTraces, LabelMap.keys_mapLabels]
    exact ((listed trace inTraces).records record inSteps).fired_known label fired
  fired_nodup := by
    intro trace inTraces record inSteps
    exact ((listed trace inTraces).records record inSteps).fired_nodup
  rows_eq := by
    have entries : (Statistics.ofTraces net steps traces).labels.entries.map
        (fun entry => entry.2.totalFirings) =
          net.labels.map fun label => (labelStatistics traces label).totalFirings := by
      rw [Statistics.ofTraces, LabelMap.mapLabels, List.map_map, Net.labels, LabelMap.keys,
        List.map_map]
      rfl
    rw [entries, ← length_events_eq_sum listed]
    exact List.length_map _
  table_agrees := by
    refine ⟨_, Csv.read?_table traces, ?_, ?_⟩
    · rw [Audit.table, List.length_map, List.length_map]
    · intro label known
      exact ⟨labelStatistics traces label, agreesOn_of_listed listed known⟩

end Outcome

/-- **The reports of a batch agree.** -/
theorem runBatch_agrees {net : Net} (valid : net.validate = .ok ()) {plan : BatchPlan}
    {entropy : Nat → UInt64} {outcome : BatchOutcome} {log : Log}
    (run : runBatch net plan entropy = .ok (outcome, log)) : outcome.Agrees net plan := by
  have consistent := Net.validate_eq_ok_iff.1 valid
  unfold runBatch at run
  split at run
  · cases run
  · cases run
    refine agrees_of_listed ?_ ?_ rfl
    · intro trace member
      obtain ⟨trial, -, rfl⟩ := List.mem_map.1 member
      obtain ⟨markings, isRun⟩ :=
        consistent.isRun_trace plan.steps (plan.seedOf entropy trial) []
      exact isRun.listed consistent
    · rw [List.length_map, List.length_range]

/-- Two runs of the rivals. -/
theorem rivals_batch_agrees :
    ∃ outcome log,
      runBatch Net.rivals { trials := 2, steps := 3, seed := some 7 } (fun _ => 0) =
        .ok (outcome, log) ∧
      Csv.read? (Audit.table outcome.traces).2 =
        some [Csv.headerFields, ["0", "1", "right"], ["0", "1", "spring"], ["0", "2", "right"],
          ["1", "1", "spring"], ["1", "1", "right"], ["1", "2", "left"]] ∧
      outcome.Agrees Net.rivals { trials := 2, steps := 3, seed := some 7 } := by
  obtain ⟨log, run⟩ :=
    runBatch_eq_ok Net.rivals (by decide : 0 < 2) (by decide : 0 < 3) 7 fun _ => 0
  have table : Csv.read? (Audit.table (tracesFrom Net.rivals 3 7 2)).2 =
      some [Csv.headerFields, ["0", "1", "right"], ["0", "1", "spring"], ["0", "2", "right"],
        ["1", "1", "spring"], ["1", "1", "right"], ["1", "2", "left"]] := by
    decide +kernel
  exact ⟨_, log, run, table, runBatch_agrees Net.rivals_validate run⟩

end EventNet
