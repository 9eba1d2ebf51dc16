import EventNet.Proofs.Batch.Reports

/-!
# Statistics from hash tables

Statistics can be gathered in one pass over the traces, with a table of the steps in which every
label fired first, run by run, a table of the firings of every label, and a table of the texts of
the final markings. The tables of a run and of the texts are gone through afterwards, and a hash
table lists its entries in any order it likes. So it is a relation which statistics come out of
such a pass (`Accumulated`).

Only one statistics does, and it is that of `Statistics.ofTraces` (`accumulated_iff`). In the
table of a run every label has one entry, so whatever the order, a run adds at most one step to
the list of a label (`Gathers.firsts_eq`). The texts are sorted in the end, and no two of them
have the same place (`mergeSort_comesBefore_congr`). For the same reason the order of the traces
does not matter (`ofTraces_perm`).
-/

set_option autoImplicit false

namespace EventNet

/-! ## The first steps of a run -/

/-- Notes the step in which a label fires, unless it has fired before. -/
def noteFirst (step : Nat) (seen : LabelMap Nat) (label : String) : LabelMap Nat :=
  seen.upsert label fun first => first.getD step

/-- The table of the first steps of a run, filled record by record. -/
def Trace.firsts (trace : Trace) : LabelMap Nat :=
  trace.steps.foldl (fun seen record => record.firedLabels.foldl (noteFirst record.step) seen)
    LabelMap.empty

section Firsts

variable (seen : LabelMap Nat) (label : String)

theorem find?_foldl_noteFirst (step : Nat) (labels : List String) :
    (labels.foldl (noteFirst step) seen).find? label =
      (seen.find? label).or (if label ∈ labels then some step else none) := by
  induction labels generalizing seen with
  | nil => simp
  | cons first labels ih =>
    rw [List.foldl_cons, ih, noteFirst, LabelMap.find?_upsert]
    by_cases same : label = first
    · subst same
      cases seen.find? label <;> simp
    · simp [same]

theorem find?_foldl_records (records : List StepRecord) :
    (records.foldl (fun seen record => record.firedLabels.foldl (noteFirst record.step) seen)
      seen).find? label =
        (seen.find? label).or ((records.find? fun record => record.firedLabels.contains label).map
          StepRecord.step) := by
  induction records generalizing seen with
  | nil => simp
  | cons record records ih =>
    rw [List.foldl_cons, ih, find?_foldl_noteFirst, List.find?_cons]
    by_cases fires : label ∈ record.firedLabels
    · cases seen.find? label <;> simp [fires]
    · simp [fires]

/-- The table of a run has the step of the first record in which a label fired. -/
theorem find?_firsts (trace : Trace) : trace.firsts.find? label = trace.firstFiring? label := by
  rw [Trace.firsts, find?_foldl_records]
  rfl

end Firsts

/-! ## The tables of all runs -/

/-- The first steps of every label, one for each run in which it fired, and how often it fired
in all. -/
structure Counters where
  firsts : LabelMap (List Nat) := LabelMap.empty
  totals : LabelMap Nat := LabelMap.empty

/-- Adds an entry of the table of a run to the steps of its label. -/
def addFirst (firsts : LabelMap (List Nat)) (entry : String × Nat) : LabelMap (List Nat) :=
  firsts.upsert entry.1 fun steps => steps.getD [] ++ [entry.2]

namespace Counters

/-- The counters after a further run, the table of which is listed in this order. -/
def add (counters : Counters) (trace : Trace) (order : List (String × Nat)) : Counters where
  firsts := order.foldl addFirst counters.firsts
  totals := trace.firedLabels.foldl
    (fun counts label => counts.upsert label fun count => count.getD 0 + 1) counters.totals

/-- The first steps of a label. -/
def firstsOf (counters : Counters) (label : String) : List Nat :=
  (counters.firsts.find? label).getD []

/-- How a label fared, by the counters. -/
def labelStatistics (counters : Counters) (label : String) : LabelStatistics where
  trialsFired := (counters.firstsOf label).length
  meanFirstFireStep := mean (counters.firstsOf label)
  totalFirings := (counters.totals.find? label).getD 0

end Counters

/-- Counters that traces lead to, if the table of each run is listed in some order. -/
inductive Gathers : List Trace → Counters → Prop where
  | nil : Gathers [] {}
  | concat {traces : List Trace} {counters : Counters} {trace : Trace}
      {order : List (String × Nat)} (gathers : Gathers traces counters)
      (listed : order.Perm trace.firsts.entries) :
      Gathers (traces ++ [trace]) (counters.add trace order)

/-- Each entry for a label adds its step to the steps of the label. -/
theorem getD_find?_foldl_addFirst (firsts : LabelMap (List Nat)) (entries : List (String × Nat))
    (label : String) :
    ((entries.foldl addFirst firsts).find? label).getD [] =
      (firsts.find? label).getD [] ++
        (entries.filter fun entry => entry.1 == label).map Prod.snd := by
  induction entries generalizing firsts with
  | nil => simp
  | cons entry entries ih =>
    rw [List.foldl_cons, ih, addFirst, LabelMap.find?_upsert]
    by_cases same : label = entry.1
    · subst same
      simp
    · have different : ¬entry.1 = label := fun equal => same equal.symm
      simp [same, different]

/-- Among entries with different labels there is one for a label or none. -/
theorem filter_label_eq {β : Type} {entries : List (String × β)}
    (nodup : (entries.map Prod.fst).Nodup) (label : String) :
    (entries.filter fun entry => entry.1 == label).map Prod.snd =
      (entries.lookup label).toList := by
  induction entries with
  | nil => rfl
  | cons entry entries ih =>
    obtain ⟨key, value⟩ := entry
    obtain ⟨fresh, rest⟩ := List.nodup_cons.1 nodup
    rw [LabelMap.lookup_cons_eq_ite]
    by_cases same : label = key
    · subst same
      have none : (entries.filter fun entry => entry.1 == label) = [] := by
        refine List.filter_eq_nil_iff.2 ?_
        intro entry member equal
        exact fresh (List.mem_map.2 ⟨entry, member, beq_iff_eq.1 equal⟩)
      simp [none]
    · have different : ¬key = label := fun equal => same equal.symm
      simp [same, different, ih rest]

/-- A table has one entry for a label or none, in whatever order it is listed. -/
theorem values_of_perm {β : Type} {map : LabelMap β} {order : List (String × β)}
    (listed : order.Perm map.entries) (label : String) :
    (order.filter fun entry => entry.1 == label).map Prod.snd = (map.find? label).toList := by
  have values := (listed.filter fun entry => entry.1 == label).map Prod.snd
  rw [filter_label_eq map.nodup] at values
  change List.Perm _ (map.find? label).toList at values
  cases found : map.find? label with
  | none =>
    rw [found] at values
    exact List.perm_nil.1 values
  | some value =>
    rw [found] at values
    exact List.perm_singleton.1 values

namespace Gathers

variable {traces : List Trace} {counters : Counters}

/-- **A label has the first steps of the runs in which it fired**, one after another, in whatever
order the tables of the runs are listed. -/
theorem firsts_eq (gathers : Gathers traces counters) (label : String) :
    counters.firstsOf label = traces.filterMap fun trace => trace.firstFiring? label := by
  induction gathers with
  | nil => rfl
  | @concat traces counters trace order gathers listed ih =>
    have added : (counters.add trace order).firstsOf label =
        counters.firstsOf label ++ (trace.firstFiring? label).toList := by
      rw [Counters.firstsOf, Counters.add, getD_find?_foldl_addFirst, values_of_perm listed,
        find?_firsts]
      rfl
    rw [added, ih, List.filterMap_append]
    cases fired : trace.firstFiring? label <;> simp [fired]

theorem totals_eq (gathers : Gathers traces counters) :
    counters.totals = tally (firedLabels traces) := by
  induction gathers with
  | nil => rfl
  | concat gathers listed ih =>
    rw [firedLabels, List.flatMap_append, List.flatMap_singleton, tally, List.foldl_append,
      Counters.add, ih]
    rfl

theorem labelStatistics_eq (gathers : Gathers traces counters) :
    counters.labelStatistics = EventNet.labelStatistics traces := by
  funext label
  have total : (counters.totals.find? label).getD 0 = (firedLabels traces).count label := by
    rw [gathers.totals_eq, find?_tally]
    by_cases fired : label ∈ firedLabels traces
    · simp [fired]
    · simp [fired, List.count_eq_zero.2 fired]
  rw [Counters.labelStatistics, total, gathers.firsts_eq, ← totalFirings_eq_count]
  rfl

end Gathers

theorem exists_gathers (traces : List Trace) : ∃ counters, Gathers traces counters := by
  induction traces using List.reverseRecOn with
  | nil => exact ⟨_, .nil⟩
  | append_singleton traces trace ih =>
    obtain ⟨counters, gathers⟩ := ih
    exact ⟨_, gathers.concat (List.Perm.refl _)⟩

/-! ## Statistics -/

/-- Counted texts have one order, whatever order they had before. -/
theorem mergeSort_comesBefore_congr {first second : List (String × Nat)}
    (same : first.Perm second) :
    first.mergeSort comesBefore = second.mergeSort comesBefore := by
  have sorted (texts : List (String × Nat)) :=
    List.pairwise_mergeSort comesBefore_trans comesBefore_total texts
  have permuted : (first.mergeSort comesBefore).Perm (second.mergeSort comesBefore) :=
    (List.mergeSort_perm first _).trans (same.trans (List.mergeSort_perm second _).symm)
  refine permuted.eq_of_pairwise ?_ (sorted first) (sorted second)
  intro one other _ _ before behind
  rw [comesBefore_iff] at before behind
  rcases before with more | ⟨equal, le⟩
  · rcases behind with less | ⟨equal, -⟩
    · exact absurd more (Nat.lt_asymm less)
    · exact absurd more (Nat.not_lt_of_ge (Nat.le_of_eq equal.symm))
  · rcases behind with less | ⟨-, ge⟩
    · exact absurd less (Nat.not_lt_of_ge (Nat.le_of_eq equal.symm))
    · exact Prod.ext (le_antisymm le ge) equal

/-- Statistics that come out if every hash table is listed in some order. -/
inductive Accumulated (net : Net) (steps : Nat) (traces : List Trace) : Statistics → Prop where
  | intro {counters : Counters} {texts : List (String × Nat)} (gathers : Gathers traces counters)
      (listed : texts.Perm (tally (traces.map Trace.finalText)).entries) :
      Accumulated net steps traces
        { trials := traces.length
          steps
          quiescentTrials := (traces.filterMap Trace.stepsToQuiescence).length
          meanStepsToQuiescence := mean (traces.filterMap Trace.stepsToQuiescence)
          labels := net.buses.mapLabels counters.labelStatistics
          finalMarkings := texts.mergeSort comesBefore }

/-- **The order in which hash tables are listed does not matter.** Of all the orders in which
they can be listed, each leads to the same statistics. -/
theorem accumulated_iff {net : Net} {steps : Nat} {traces : List Trace}
    {statistics : Statistics} :
    Accumulated net steps traces statistics ↔ statistics = .ofTraces net steps traces := by
  constructor
  · rintro ⟨gathers, listed⟩
    rw [gathers.labelStatistics_eq, mergeSort_comesBefore_congr listed]
    rfl
  · rintro rfl
    obtain ⟨counters, gathers⟩ := exists_gathers traces
    have accumulated : Accumulated net steps traces _ := .intro gathers (List.Perm.refl _)
    rwa [gathers.labelStatistics_eq] at accumulated

/-! ## The order of the traces -/

section Permuted

variable {first second : List Trace} (same : first.Perm second)

theorem mean_perm {numbers others : List Nat} (same : numbers.Perm others) :
    mean numbers = mean others := by
  have sum : numbers.foldr (· + ·) 0 = others.foldr (· + ·) 0 := by
    rw [← List.sum_eq_foldr, ← List.sum_eq_foldr]
    exact same.sum_eq
  rw [mean, mean, same.isEmpty_eq, sum, same.length_eq]

include same

theorem labelStatistics_perm : labelStatistics first = labelStatistics second := by
  funext label
  have firsts := same.filterMap fun trace => trace.firstFiring? label
  have total : (labelStatistics first label).totalFirings =
      (labelStatistics second label).totalFirings := by
    rw [totalFirings_eq_count, totalFirings_eq_count]
    exact (same.flatMap_right Trace.firedLabels).count_eq label
  simp only [labelStatistics] at total ⊢
  rw [firsts.length_eq, mean_perm firsts, total]

theorem tally_perm :
    (tally (first.map Trace.finalText)).entries.Perm
      (tally (second.map Trace.finalText)).entries := by
  have distinct (texts : List String) : (tally texts).entries.Nodup := .of_map _ (tally _).nodup
  refine (List.perm_ext_iff_of_nodup (distinct _) (distinct _)).2 ?_
  rintro ⟨text, count⟩
  rw [mem_entries_tally, mem_entries_tally, (same.map Trace.finalText).count_eq text]

/-- **The order of the traces does not matter.** -/
theorem ofTraces_perm (net : Net) (steps : Nat) :
    Statistics.ofTraces net steps first = Statistics.ofTraces net steps second := by
  have quiescent := same.filterMap Trace.stepsToQuiescence
  simp only [Statistics.ofTraces]
  rw [same.length_eq, quiescent.length_eq, mean_perm quiescent, labelStatistics_perm same,
    mergeSort_comesBefore_congr (tally_perm same)]

end Permuted

end EventNet
