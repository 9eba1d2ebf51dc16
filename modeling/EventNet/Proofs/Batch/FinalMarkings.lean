import EventNet.Proofs.Batch.Statistics
import EventNet.Proofs.Build.Holds
import EventNet.Proofs.Guarded.Run
import EventNet.Proofs.Net.MarkingText
import EventNet.Proofs.Notation.Compilation

/-!
# Final markings in the statistics

The statistics of a batch count the runs by the texts of their final markings. Where the names
of the places are distinct and can be listed, a text stands for one marking, and then the runs
under one entry are those that have ended in one marking (`BatchOutcome.TellsApart`).

A source text gives places such names: they consist of letters, digits and low lines, and a
label always means the same place. So nothing is confounded in a batch on a net that has been
read (`compile_tellsApart`).
-/

set_option autoImplicit false

namespace EventNet

/-! ## Runs and entries -/

/-- The marking in which a run of a batch ends. -/
def BatchPlan.lastMarking (plan : BatchPlan) (net : Net) (entropy : Nat → UInt64)
    (trial : Nat) : Marking :=
  ((Engine.ofNet net).course plan.steps (plan.seedOf entropy trial) []).final.marking

namespace BatchOutcome

/-- The run is counted under the entry, which has the text of its final marking. -/
def CountsUnder (outcome : BatchOutcome) (trial : Nat) (entry : String × Nat) : Prop :=
  entry ∈ outcome.statistics.finalMarkings ∧
    outcome.traces[trial]?.map Trace.finalText = some entry.1

/-- Runs that end in the markings `last` are counted by them. -/
structure TellsApart (outcome : BatchOutcome) (net : Net) (trials : Nat)
    (last : Nat → Marking) : Prop where
  length_eq : outcome.traces.length = trials
  sized : ∀ trial < trials, (last trial).marks.length = net.places.length
  finalMarking_eq : ∀ trial < trials,
    outcome.traces[trial]?.map Trace.finalMarking = some ((last trial).snapshot net)
  /-- Every run is counted under one entry. -/
  counted : ∀ trial < trials, ∃! entry, outcome.CountsUnder trial entry
  /-- Two runs are counted under the same entry if they have ended in the same marking, and
  only then. -/
  entries_eq_iff : ∀ first < trials, ∀ second < trials, ∀ entry other,
    outcome.CountsUnder first entry → outcome.CountsUnder second other →
      (entry = other ↔ last first = last second)
  /-- The entry shows the marking and the number of the runs that have ended in it. -/
  entry_eq : ∀ trial < trials, ∀ entry, outcome.CountsUnder trial entry →
    entry = ((last trial).text net,
      (List.range trials).countP fun other => decide (last other = last trial))

end BatchOutcome

section Traces

variable (net : Net) (steps trials : Nat) (traceOf : Nat → Trace)

/-- The outcome of runs with these traces. -/
def BatchOutcome.ofRuns : BatchOutcome :=
  let traces := (List.range trials).map traceOf
  { traces, statistics := Statistics.ofTraces net steps traces }

variable {net trials traceOf} {last : Nat → Marking}

theorem BatchOutcome.getElem?_ofRuns {trial : Nat} (inside : trial < trials) :
    (ofRuns net steps trials traceOf).traces[trial]? = some (traceOf trial) := by
  rw [ofRuns, List.getElem?_map, List.getElem?_range inside, Option.map_some]

variable (shown : ∀ trial, (traceOf trial).finalText = (last trial).text net)
variable (apart : ∀ first second, (traceOf first).finalText = (traceOf second).finalText ↔
  last first = last second)

include apart in
/-- The number of a text counts the runs that have ended in the marking with this text. -/
theorem count_finalText (trial : Nat) :
    (((List.range trials).map traceOf).map Trace.finalText).count (traceOf trial).finalText =
      (List.range trials).countP fun other => decide (last other = last trial) := by
  rw [List.map_map, List.count_eq_countP, List.countP_map]
  refine List.countP_congr fun other _ => ?_
  simp only [Function.comp_apply, beq_iff_eq, decide_eq_true_eq, apart]

include shown apart

/-- A run is counted under one entry, which shows its final marking. -/
theorem BatchOutcome.countsUnder_iff {trial : Nat} (inside : trial < trials)
    {entry : String × Nat} :
    (ofRuns net steps trials traceOf).CountsUnder trial entry ↔
      entry = ((last trial).text net,
        (List.range trials).countP fun other => decide (last other = last trial)) := by
  obtain ⟨text, count⟩ := entry
  rw [CountsUnder, getElem?_ofRuns steps inside, ofRuns, Statistics.mem_finalMarkings,
    Option.map_some, Option.some_inj, Prod.mk.injEq, ← shown trial, ← count_finalText apart trial]
  constructor
  · rintro ⟨⟨-, rfl⟩, rfl⟩
    exact ⟨rfl, rfl⟩
  · rintro ⟨rfl, rfl⟩
    refine ⟨⟨List.count_pos_iff.2 ?_, rfl⟩, rfl⟩
    exact List.mem_map_of_mem (List.mem_map_of_mem (List.mem_range.2 inside))

/-- The runs under an entry are those that have ended in one marking, as soon as texts tell the
markings apart. -/
theorem BatchOutcome.tellsApart_ofRuns
    (sized : ∀ trial, (last trial).marks.length = net.places.length)
    (ends : ∀ trial, (traceOf trial).finalMarking = (last trial).snapshot net) :
    (ofRuns net steps trials traceOf).TellsApart net trials last where
  length_eq := by rw [ofRuns, List.length_map, List.length_range]
  sized trial _ := sized trial
  finalMarking_eq trial inside := by
    rw [getElem?_ofRuns steps inside, Option.map_some, ends]
  counted trial inside :=
    ⟨_, (countsUnder_iff steps shown apart inside).2 rfl,
      fun _ => (countsUnder_iff steps shown apart inside).1⟩
  entries_eq_iff first inside second inOther entry other under underOther := by
    rw [(countsUnder_iff steps shown apart inside).1 under,
      (countsUnder_iff steps shown apart inOther).1 underOther, Prod.mk.injEq, ← shown first,
      ← shown second, apart]
    exact and_iff_left_of_imp fun same => by rw [same]
  entry_eq _ inside _ := (countsUnder_iff steps shown apart inside).1

end Traces

/-- **The runs of a batch are counted by their final markings**, if the names of the places are
distinct and can be listed. -/
theorem Net.Consistent.runBatch_tellsApart {net : Net} (consistent : net.Consistent)
    (distinct : (net.places.map Place.name).Nodup)
    (listable : ∀ place ∈ net.places, IsListable place.name) {plan : BatchPlan}
    (someTrials : 0 < plan.trials) (someSteps : 0 < plan.steps) (entropy : Nat → UInt64) :
    ∃ outcome log, runBatch net plan entropy = .ok (outcome, log) ∧
      outcome.TellsApart net plan.trials (plan.lastMarking net entropy) := by
  have sound : plan.error? = none :=
    BatchPlan.error?_eq_none_iff.2 ⟨Nat.ne_of_gt someTrials, Nat.ne_of_gt someSteps⟩
  have sized (trial : Nat) :
      (plan.lastMarking net entropy trial).marks.length = net.places.length :=
    (consistent.sized_course plan.steps (plan.seedOf entropy trial) []).2
  simp only [runBatch, sound]
  refine ⟨_, _, rfl, BatchOutcome.tellsApart_ofRuns plan.steps (fun trial => ?_)
    (fun first second => ?_) sized fun _ => rfl⟩
  · exact Marking.text_snapshot _ distinct (sized trial)
  · exact Marking.text_snapshot_eq_iff distinct listable (sized first) (sized second)

/-! ## Nets that have been read -/

namespace Notation

/-- A name can be listed, for no comma is part of a name. -/
theorem IsName.isListable {name : String} (isName : IsName name) : IsListable name where
  nonempty := by
    rintro rfl
    exact isName.1 rfl
  no_comma := by
    intro comma
    have inLabel := isName.2 ',' comma
    revert inLabel
    decide

/-- The names of a net that has been read are names of the notation. -/
theorem named_compile (source : String) : (compile source).net.Named IsName :=
  (Builder.ofStatements_conflicts (fun _ isName => isName.isTidy)
    (reads {} source.toList).all).1

/-- **Nothing is confounded in the statistics of a net that has been read**: a snapshot is shown
like its marking, different markings have different texts, and runs are counted under one entry
exactly if they have ended in one marking. -/
theorem compile_tellsApart (source : String) :
    let net := (compile source).net
    (∀ marking : Marking, marking.marks.length = net.places.length →
      (marking.snapshot net).text = marking.text net) ∧
    (∀ first second : Marking, first.marks.length = net.places.length →
      second.marks.length = net.places.length →
        ((first.snapshot net).text = (second.snapshot net).text ↔ first = second)) ∧
    ∀ (plan : BatchPlan) (entropy : Nat → UInt64), 0 < plan.trials → 0 < plan.steps →
      ∃ outcome log, runBatch net plan entropy = .ok (outcome, log) ∧
        outcome.TellsApart net plan.trials (plan.lastMarking net entropy) := by
  intro net
  have sound := (Builder.holds_ofStatements (read source).statements).sound
  have distinct : (net.places.map Place.name).Nodup := sound.wellBuilt.place_names_nodup
  have listable : ∀ place ∈ net.places, IsListable place.name := fun place listed =>
    ((named_compile source).places place listed).isListable
  refine ⟨fun marking => marking.text_snapshot distinct, fun first second => ?_,
    fun plan entropy someTrials someSteps => ?_⟩
  · exact Marking.text_snapshot_eq_iff distinct listable
  · exact sound.consistent.runBatch_tellsApart distinct listable someTrials someSteps entropy

/-- A coin that falls on one side or the other. -/
def coin : String := "coin. coin -> #luck -> heads. coin -> #ruin -> tails."

/-- Three coins are thrown, of which two show heads. -/
theorem coin_tellsApart :
    let net := (compile coin).net
    let plan : BatchPlan := { trials := 3, steps := 2, seed := some 7 }
    let heads : Marking := ⟨[false, true, false]⟩
    let tails : Marking := ⟨[false, false, true]⟩
    (List.range 3).map (plan.lastMarking net fun _ => 0) = [tails, heads, heads] ∧
      (heads.snapshot net).text = heads.text net ∧
      ((heads.snapshot net).text = (tails.snapshot net).text ↔ heads = tails) ∧
      ∃ outcome log, runBatch net plan (fun _ => 0) = .ok (outcome, log) ∧
        outcome.TellsApart net 3 (plan.lastMarking net fun _ => 0) := by
  intro net plan heads tails
  obtain ⟨shown, apart, counted⟩ := compile_tellsApart coin
  have sized : heads.marks.length = net.places.length := by decide +kernel
  have sizedOther : tails.marks.length = net.places.length := by decide +kernel
  exact ⟨by decide +kernel, shown heads sized, apart heads tails sized sizedOther,
    counted plan (fun _ => 0) (by decide) (by decide)⟩

end Notation

end EventNet
