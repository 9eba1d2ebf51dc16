import EventNet.Proofs.Text.ByteOrder
import EventNet.Statistics
import Mathlib.Data.List.Induction

/-!
# Statistics of runs put together

The statistics of a list of traces count: runs, quiescent runs, for every label the runs in
which it fired and its firings, and the texts of the final markings. To count in two lists
that stand one behind the other is to count in both and to add (`Statistics.merges_ofTraces`).

The texts are counted in a map (`find?_tally`) and are then put into an order. No two of them
have the same place in it: of texts that are equally frequent the one with the smaller bytes
comes first (`pairwise_finalMarkings`).
-/

set_option autoImplicit false

namespace EventNet

/-! ## Counting firings -/

theorem trialsFired_append (first second : List Trace) (label : String) :
    (labelStatistics (first ++ second) label).trialsFired =
      (labelStatistics first label).trialsFired + (labelStatistics second label).trialsFired := by
  simp only [labelStatistics, List.filterMap_append, List.length_append]

theorem totalFirings_append (first second : List Trace) (label : String) :
    (labelStatistics (first ++ second) label).totalFirings =
      (labelStatistics first label).totalFirings + (labelStatistics second label).totalFirings := by
  induction first with
  | nil => exact (Nat.zero_add _).symm
  | cons trace first ih =>
    simp only [labelStatistics, List.cons_append, List.foldr_cons, Nat.add_assoc] at ih ⊢
    rw [ih]

/-! ## Counting texts -/

theorem tally_concat (texts : List String) (text : String) :
    tally (texts ++ [text]) = (tally texts).upsert text fun count => count.getD 0 + 1 :=
  List.foldl_concat _ _ _ _

/-- A text has an entry in the tally if it occurs, with the number of its occurrences. -/
theorem find?_tally (texts : List String) (text : String) :
    (tally texts).find? text = if text ∈ texts then some (texts.count text) else none := by
  induction texts using List.reverseRecOn with
  | nil => rfl
  | append_singleton texts last ih =>
    rw [tally_concat, LabelMap.find?_upsert, ih]
    by_cases same : text = last
    · subst same
      by_cases listed : text ∈ texts
      · simp [listed, ih]
      · simp [listed, ih, List.count_eq_zero.2 listed]
    · have different : ¬last = text := fun equal => same equal.symm
      simp [same, different]

theorem mem_entries_tally {texts : List String} {text : String} {count : Nat} :
    (text, count) ∈ (tally texts).entries ↔ 0 < count ∧ count = texts.count text := by
  constructor
  · intro listed
    have found := LabelMap.find?_of_mem listed
    rw [find?_tally] at found
    split at found
    · rename_i occurs
      cases found
      exact ⟨List.count_pos_iff.2 occurs, rfl⟩
    · cases found
  · rintro ⟨positive, rfl⟩
    refine LabelMap.mem_of_find? ?_
    rw [find?_tally, if_pos (List.count_pos_iff.1 positive)]

/-! ## The order of counted texts -/

theorem comesBefore_iff {first second : String × Nat} :
    comesBefore first second = true ↔
      second.2 < first.2 ∨ first.2 = second.2 ∧ first.1 ≤ second.1 := by
  simp only [comesBefore, Bool.or_eq_true, Bool.and_eq_true, decide_eq_true_eq, beq_iff_eq,
    Bool.not_eq_true', decide_eq_false_iff_not, not_lt]

theorem comesBefore_trans (first second third : String × Nat)
    (earlier : comesBefore first second = true) (later : comesBefore second third = true) :
    comesBefore first third = true := by
  rw [comesBefore_iff] at *
  rcases earlier with more | ⟨equal, before⟩
  · rcases later with further | ⟨same, -⟩
    · exact .inl (Nat.lt_trans further more)
    · exact .inl (same ▸ more)
  · rcases later with further | ⟨same, behind⟩
    · exact .inl (equal ▸ further)
    · exact .inr ⟨equal.trans same, before.trans behind⟩

theorem comesBefore_total (first second : String × Nat) :
    (comesBefore first second || comesBefore second first) = true := by
  rw [Bool.or_eq_true, comesBefore_iff, comesBefore_iff]
  rcases Nat.lt_trichotomy second.2 first.2 with more | equal | less
  · exact .inl (.inl more)
  · rcases le_total first.1 second.1 with before | behind
    · exact .inl (.inr ⟨equal.symm, before⟩)
    · exact .inr (.inr ⟨equal, behind⟩)
  · exact .inr (.inl less)

namespace Statistics

/-- How many runs ended with this text. -/
def finalCount (statistics : Statistics) (text : String) : Nat :=
  (statistics.finalMarkings.lookup text).getD 0

variable (net : Net) (steps : Nat) (traces : List Trace)

theorem finalMarkings_perm :
    (ofTraces net steps traces).finalMarkings.Perm
      (tally (traces.map Trace.finalText)).entries :=
  List.mergeSort_perm _ _

/-- Every text stands once. -/
theorem nodup_finalMarkings :
    ((ofTraces net steps traces).finalMarkings.map Prod.fst).Nodup :=
  ((finalMarkings_perm net steps traces).map Prod.fst).nodup_iff.2 (tally _).nodup

variable {net steps traces} in
theorem mem_finalMarkings {text : String} {count : Nat} :
    (text, count) ∈ (ofTraces net steps traces).finalMarkings ↔
      0 < count ∧ count = (traces.map Trace.finalText).count text :=
  (finalMarkings_perm net steps traces).mem_iff.trans mem_entries_tally

theorem finalCount_ofTraces (text : String) :
    (ofTraces net steps traces).finalCount text = (traces.map Trace.finalText).count text := by
  let shown : LabelMap Nat := ⟨_, nodup_finalMarkings net steps traces⟩
  show (shown.find? text).getD 0 = _
  cases found : shown.find? text with
  | some count =>
    have listed : (text, count) ∈ (ofTraces net steps traces).finalMarkings :=
      LabelMap.mem_of_find? found
    exact (mem_finalMarkings.1 listed).2
  | none =>
    refine (Nat.eq_zero_of_not_pos fun positive => ?_).symm
    have listed : (text, _) ∈ (ofTraces net steps traces).finalMarkings :=
      mem_finalMarkings.2 ⟨positive, rfl⟩
    exact LabelMap.find?_eq_none_iff.1 found (List.mem_map_of_mem listed)

/-- **The texts stand in their order**, frequent ones first, and equally frequent ones by
their bytes. -/
theorem pairwise_finalMarkings :
    (ofTraces net steps traces).finalMarkings.Pairwise fun first second =>
      second.2 < first.2 ∨ first.2 = second.2 ∧ Text.bytes first.1 < Text.bytes second.1 := by
  have sorted := List.pairwise_mergeSort comesBefore_trans comesBefore_total
    (tally (traces.map Trace.finalText)).entries
  have different := List.pairwise_map.1 (nodup_finalMarkings net steps traces)
  refine (sorted.and different).imp ?_
  rintro first second ⟨before, apart⟩
  rcases comesBefore_iff.1 before with more | ⟨equal, le⟩
  · exact .inl more
  · exact .inr ⟨equal, Text.bytes_lt_iff.2 (lt_of_le_of_ne le apart)⟩

/-- Statistics that put those of two parts together. -/
structure Merges (whole first second : Statistics) : Prop where
  trials_eq : whole.trials = first.trials + second.trials
  quiescentTrials_eq : whole.quiescentTrials = first.quiescentTrials + second.quiescentTrials
  keys_first : first.labels.keys = whole.labels.keys
  keys_second : second.labels.keys = whole.labels.keys
  labels_eq : ∀ label ∈ whole.labels.keys, ∃ entry one other,
    whole.labels.find? label = some entry ∧ first.labels.find? label = some one ∧
      second.labels.find? label = some other ∧
      entry.trialsFired = one.trialsFired + other.trialsFired ∧
      entry.totalFirings = one.totalFirings + other.totalFirings
  mem_finalMarkings : ∀ (text : String) (count : Nat),
    (text, count) ∈ whole.finalMarkings ↔
      0 < count ∧ count = first.finalCount text + second.finalCount text
  nodup_finalMarkings : (whole.finalMarkings.map Prod.fst).Nodup
  /-- Frequent texts come first, and equally frequent ones are in the order of their bytes. -/
  pairwise_finalMarkings : whole.finalMarkings.Pairwise fun first second =>
    second.2 < first.2 ∨ first.2 = second.2 ∧ Text.bytes first.1 < Text.bytes second.1

/-- **To count in two lists of traces one behind the other is to count in both and to add.** -/
theorem merges_ofTraces (first second : List Trace) :
    Merges (ofTraces net steps (first ++ second)) (ofTraces net steps first)
      (ofTraces net steps second) where
  trials_eq := List.length_append
  quiescentTrials_eq := by
    simp only [ofTraces, List.filterMap_append, List.length_append]
  keys_first := by simp only [ofTraces, LabelMap.keys_mapLabels]
  keys_second := by simp only [ofTraces, LabelMap.keys_mapLabels]
  labels_eq := by
    intro label listed
    have bus : label ∈ net.buses.keys := by
      rwa [ofTraces, LabelMap.keys_mapLabels] at listed
    exact ⟨_, _, _, LabelMap.find?_mapLabels bus _, LabelMap.find?_mapLabels bus _,
      LabelMap.find?_mapLabels bus _, trialsFired_append first second label,
      totalFirings_append first second label⟩
  mem_finalMarkings := by
    intro text count
    rw [mem_finalMarkings, finalCount_ofTraces, finalCount_ofTraces, List.map_append,
      List.count_append]
  nodup_finalMarkings := nodup_finalMarkings net steps (first ++ second)
  pairwise_finalMarkings := pairwise_finalMarkings net steps (first ++ second)

end Statistics

end EventNet
