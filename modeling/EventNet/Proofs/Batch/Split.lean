import EventNet.Batch
import EventNet.Proofs.Batch.Statistics
import EventNet.Proofs.Run.Trace

/-!
# Batches in parts

The runs of a batch have nothing in common but the net, and with a master seed their seeds
follow one another. So a batch can be run in parts: the second part starts with the seed that
stands as many places behind the master seed as the first part has runs, also where the seeds
wrap around in between (`tracesFrom_add`). The traces of the two parts one behind the other
are those of the whole batch, and the statistics of the parts put together are its statistics
(`runBatch_split`).
-/

set_option autoImplicit false

namespace EventNet

/-! ## Seeds that follow one another -/

/-- The seed that stands a number of places behind another one. Seeds wrap around. -/
def seedAfter (seed : UInt64) (places : Nat) : UInt64 :=
  UInt64.ofNat ((seed.toNat + places) % UInt64.size)

theorem toNat_seedAfter (seed : UInt64) (places : Nat) :
    (seedAfter seed places).toNat = (seed.toNat + places) % UInt64.size := by
  rw [seedAfter, UInt64.toNat_ofNat', Nat.mod_mod]

/-- The sum of words is the seed so many places behind. -/
theorem add_toUInt64 (seed : UInt64) (places : Nat) :
    seed + places.toUInt64 = seedAfter seed places := by
  rw [← UInt64.toNat_inj, UInt64.toNat_add, toNat_seedAfter, Nat.toUInt64, UInt64.toNat_ofNat',
    Nat.add_mod_mod]

theorem seedAfter_seedAfter (seed : UInt64) (places more : Nat) :
    seedAfter (seedAfter seed places) more = seedAfter seed (places + more) := by
  rw [← UInt64.toNat_inj, toNat_seedAfter, toNat_seedAfter, toNat_seedAfter, Nat.mod_add_mod,
    Nat.add_assoc]

/-! ## Traces of a batch -/

/-- The traces of runs whose seeds follow one another. -/
def tracesFrom (net : Net) (steps : Nat) (seed : UInt64) (trials : Nat) : List Trace :=
  (List.range trials).map fun trial =>
    ((Engine.ofNet net).course steps (seedAfter seed trial) []).trace (Engine.ofNet net)
      (seedAfter seed trial)

/-- **More runs are those with the seeds that come next.** -/
theorem tracesFrom_add (net : Net) (steps : Nat) (seed : UInt64) (first second : Nat) :
    tracesFrom net steps seed (first + second) =
      tracesFrom net steps seed first ++
        tracesFrom net steps (seedAfter seed first) second := by
  rw [tracesFrom, List.range_add, List.map_append, List.map_map]
  refine congrArg (tracesFrom net steps seed first ++ ·) (List.map_congr_left fun trial _ => ?_)
  rw [Function.comp_apply, ← seedAfter_seedAfter]

/-- Every trace of a batch is that of a run for its seed. -/
theorem runTrial_of_tracesFrom (net : Net) {steps : Nat} (positive : 0 < steps) (seed : UInt64)
    {trials trial : Nat} (inside : trial < trials) :
    ∃ trace log, (tracesFrom net steps seed trials)[trial]? = some trace ∧
      runTrial net steps (seedAfter seed trial) = .ok (trace, log) := by
  obtain ⟨log, run⟩ := runStory_eq_ok net positive (seedAfter seed trial) []
  refine ⟨_, log, ?_, run⟩
  rw [tracesFrom, List.getElem?_map, List.getElem?_range inside]
  rfl

/-- A batch needs a run and a step. -/
theorem runBatch_eq_ok (net : Net) {trials steps : Nat} (someTrials : 0 < trials)
    (someSteps : 0 < steps) (seed : UInt64) (entropy : Nat → UInt64) :
    ∃ log, runBatch net { trials, steps, seed := some seed } entropy =
      .ok ({ traces := tracesFrom net steps seed trials
             statistics := Statistics.ofTraces net steps (tracesFrom net steps seed trials) },
        log) := by
  have sound : BatchPlan.error? { trials, steps, seed := some seed } = none :=
    BatchPlan.error?_eq_none_iff.2 ⟨Nat.ne_of_gt someTrials, Nat.ne_of_gt someSteps⟩
  simp only [runBatch, sound, BatchPlan.seedOf, add_toUInt64]
  exact ⟨_, rfl⟩

/-- **A batch can be run in two parts**, of which the second takes up the seeds where the first
has left them. -/
theorem runBatch_split (net : Net) {steps first second : Nat} (someSteps : 0 < steps)
    (someFirst : 0 < first) (someSecond : 0 < second) (seed : UInt64)
    (entropy firstEntropy secondEntropy : Nat → UInt64) :
    ∃ whole log left leftLog right rightLog,
      runBatch net { trials := first + second, steps, seed := some seed } entropy =
        .ok (whole, log) ∧
      runBatch net { trials := first, steps, seed := some seed } firstEntropy =
        .ok (left, leftLog) ∧
      runBatch net { trials := second, steps, seed := some (seedAfter seed first) }
        secondEntropy = .ok (right, rightLog) ∧
      whole.traces.length = first + second ∧
      (∀ trial < first + second, ∃ trace trialLog, whole.traces[trial]? = some trace ∧
        runTrial net steps (seedAfter seed trial) = .ok (trace, trialLog)) ∧
      whole.traces = left.traces ++ right.traces ∧
      whole.statistics.Merges left.statistics right.statistics := by
  obtain ⟨log, whole⟩ :=
    runBatch_eq_ok net (Nat.add_pos_left someFirst second) someSteps seed entropy
  obtain ⟨leftLog, left⟩ := runBatch_eq_ok net someFirst someSteps seed firstEntropy
  obtain ⟨rightLog, right⟩ :=
    runBatch_eq_ok net someSecond someSteps (seedAfter seed first) secondEntropy
  refine ⟨_, log, _, leftLog, _, rightLog, whole, left, right, ?_, ?_, ?_, ?_⟩
  · rw [tracesFrom, List.length_map, List.length_range]
  · exact fun trial inside => runTrial_of_tracesFrom net someSteps seed inside
  · exact tracesFrom_add net steps seed first second
  · rw [tracesFrom_add]
    exact Statistics.merges_ofTraces net steps _ _

/-- A batch of three runs of the rivals with the greatest seed, of which the last two have the
seeds zero and one. In these two the left rivals fire, three times in all. -/
theorem rivals_batch_split :
    seedAfter 0xffffffffffffffff 1 = 0 ∧
    ∃ whole log left leftLog right rightLog,
      runBatch Net.rivals { trials := 1 + 2, steps := 3, seed := some 0xffffffffffffffff }
        (fun _ => 0) = .ok (whole, log) ∧
      runBatch Net.rivals { trials := 1, steps := 3, seed := some 0xffffffffffffffff }
        (fun _ => 0) = .ok (left, leftLog) ∧
      runBatch Net.rivals { trials := 2, steps := 3, seed := some (seedAfter 0xffffffffffffffff 1) }
        (fun _ => 0) = .ok (right, rightLog) ∧
      (whole.traces.length = 1 + 2 ∧
        (∀ trial < 1 + 2, ∃ trace trialLog, whole.traces[trial]? = some trace ∧
          runTrial Net.rivals 3 (seedAfter 0xffffffffffffffff trial) = .ok (trace, trialLog)) ∧
        whole.traces = left.traces ++ right.traces ∧
        whole.statistics.Merges left.statistics right.statistics) ∧
      (left.traces.map Trace.path = ["right+spring -> right"] ∧
        right.traces.map Trace.path = ["right+spring -> left", "left+spring -> left"]) ∧
      (whole.statistics.labels.find? "left").map (fun entry =>
        (entry.trialsFired, entry.totalFirings)) = some (2, 3) := by
  refine ⟨by decide +kernel, ?_⟩
  obtain ⟨whole, log, left, leftLog, right, rightLog, ran, leftRan, rightRan, split⟩ :=
    runBatch_split Net.rivals (show 0 < 3 by decide) Nat.one_pos Nat.two_pos 0xffffffffffffffff
      (fun _ => 0) (fun _ => 0) (fun _ => 0)
  refine ⟨whole, log, left, leftLog, right, rightLog, ran, leftRan, rightRan, split,
    ⟨?_, ?_⟩, ?_⟩
  · exact view_eq_of_eq_ok leftRan (fun outcome => outcome.traces.map _) (by decide +kernel)
  · exact view_eq_of_eq_ok rightRan (fun outcome => outcome.traces.map _) (by decide +kernel)
  · refine view_eq_of_eq_ok ran (fun outcome => (outcome.statistics.labels.find? "left").map _) ?_
    decide +kernel

end EventNet
