import EventNet.Proofs.Firing.InPlace
import EventNet.Proofs.Run.Correspondence

/-!
# Runs do not depend on the indices

A document may list the arcs at a node in any order and an arc more than once; the check of
a net asks only that the indices and the arc table name the same arcs. Two accepted nets
with the same tables therefore correspond, every place paired with itself
(`Net.SameTables.corresponds`). Markings that correspond in this way are equal, and so are
the steps and the runs (`runs_eq_of_sameTables`). An arc that an index repeats does not
make its transition compete with itself.
-/

set_option autoImplicit false

namespace EventNet

open EventNet.Random (WordSource)

/-- The nets differ at most in what their indices look like. -/
structure Net.SameTables (first second : Net) : Prop where
  places_eq : first.places = second.places
  names_eq : first.transitions.map Transition.name = second.transitions.map Transition.name
  arcs_eq : first.arcs = second.arcs
  buses_eq : first.buses = second.buses

namespace Net.SameTables

variable {first second : Net} (tables : first.SameTables second)
include tables

theorem hasArc_iff {kind : ArcKind} {transition : TransitionId} {place : PlaceId} :
    first.HasArc kind transition place ↔ second.HasArc kind transition place := by
  rw [Net.HasArc, Net.HasArc, tables.arcs_eq]

/-- Nets with the same tables correspond, every place paired with itself. -/
theorem corresponds : first.Corresponds Eq second where
  length_transitions := by
    have length := congrArg List.length tables.names_eq
    rwa [List.length_map, List.length_map] at length
  buses_eq := tables.buses_eq
  one_to_one := by
    rintro place other partner otherPartner rfl rfl
    exact Iff.rfl
  arc_forth := by
    intro kind transition place arc
    exact ⟨place, rfl, tables.hasArc_iff.1 arc⟩
  arc_back := by
    intro kind transition place arc
    exact ⟨place, rfl, tables.hasArc_iff.2 arc⟩

theorem initial_eq : Marking.initial first = Marking.initial second := by
  rw [Marking.initial, Marking.initial, tables.places_eq]

theorem snapshot_eq (marking : Marking) : marking.snapshot first = marking.snapshot second := by
  rw [Marking.snapshot, Marking.snapshot, tables.places_eq]

end Net.SameTables

/-- Markings that correspond place by place are equal. -/
theorem Marking.Corresponds.eq {marking other : Marking}
    (markings : marking.Corresponds Eq other) : marking = other := by
  obtain ⟨marks⟩ := marking
  obtain ⟨otherMarks⟩ := other
  refine congrArg Marking.mk (List.ext_getElem? ?_)
  intro place
  exact markings place place rfl

theorem Marking.Corresponds.refl (marking : Marking) : marking.Corresponds Eq marking := by
  rintro place partner rfl
  rfl

namespace Net.SameTables

variable {first second : Net} (tables : first.SameTables second)
variable (consistent : first.Consistent) (consistentOther : second.Consistent)
include tables consistent consistentOther

/-- **A step in place is the same**, with whatever it changes. -/
theorem stepInPlace_eq {σ : Type} [WordSource σ] (preferred : Option String) :
    ((Engine.ofNet first).stepInPlace preferred : StateM (RunState × σ) (Option Step)) =
      (Engine.ofNet second).stepInPlace preferred := by
  apply StateT.ext
  rintro ⟨state, source⟩
  have steps := tables.corresponds.step? consistent consistentOther
    (⟨.refl state.marking, rfl⟩ : state.Corresponds Eq state) preferred source
  rw [Engine.run_stepInPlace, Engine.run_stepInPlace]
  generalize (Engine.ofNet first).step? preferred state source = here at steps ⊢
  generalize (Engine.ofNet second).step? preferred state source = there at steps ⊢
  cases steps with
  | none => rfl
  | @some here there step =>
    obtain ⟨choice, ⟨marking, fired⟩, rest⟩ := here
    obtain ⟨choiceOther, ⟨markingOther, firedOther⟩, restOther⟩ := there
    have choices : choice.step = choiceOther.step := step.choice.step_eq
    obtain rfl : marking = markingOther := Marking.Corresponds.eq step.state.marking
    obtain rfl : fired = firedOther := step.state.fired_eq
    obtain rfl : rest = restOther := step.source_eq
    simp only [choices]

/-- **A run is the same**, and so is what is logged. -/
theorem runStory_eq (budget : Nat) (seed : UInt64) (story : List String) :
    runStory first budget seed story = runStory second budget seed story := by
  rcases Nat.eq_zero_or_pos budget with rfl | positive
  · rfl
  · have start : (Marking.initial first).Corresponds Eq (Marking.initial second) := by
      rw [tables.initial_eq]
      exact .refl _
    have shown : ∀ {marking other : Marking}, marking.Corresponds Eq other →
        marking.snapshot first = other.snapshot second := by
      intro marking other markings
      rw [markings.eq, tables.snapshot_eq]
    obtain ⟨trace, other, log, ran, ranOther, same⟩ :=
      tables.corresponds.runStory consistent consistentOther start shown positive seed story
    rw [ran, ranOther, same.eq]

end Net.SameTables

/-- **What a net does is decided by its tables.** Two valid nets with the same places,
names, arcs and buses take the same steps from every state, with every preference and every
source of words, and have the same runs. Their indices may list the arcs in any order and
repeat them. -/
theorem runs_eq_of_sameTables {first second : Net} (valid : first.validate = .ok ())
    (validOther : second.validate = .ok ()) (tables : first.SameTables second) :
    (∀ (budget : Nat) (seed : UInt64), runTrial first budget seed = runTrial second budget seed) ∧
      (∀ (budget : Nat) (seed : UInt64) (story : List String),
        runStory first budget seed story = runStory second budget seed story) ∧
      ∀ {σ : Type} [WordSource σ] (preferred : Option String) (state : RunState) (source : σ),
        ((Engine.ofNet first).stepInPlace preferred).run (state, source) =
          ((Engine.ofNet second).stepInPlace preferred).run (state, source) := by
  have consistent := Net.validate_eq_ok_iff.1 valid
  have consistentOther := Net.validate_eq_ok_iff.1 validOther
  refine ⟨?_, tables.runStory_eq consistent consistentOther, ?_⟩
  · intro budget seed
    exact tables.runStory_eq consistent consistentOther budget seed []
  · intro σ _ preferred state source
    rw [tables.stepInPlace_eq consistent consistentOther preferred]

/-- The rivals with indices that list the arcs backwards, and some of them twice. -/
def Net.shuffledRivals : Net :=
  { Net.rivals with
    transitions := [{ name := "left", arcs := [1, 0, 0] }, { name := "right", arcs := [2, 2] },
      { name := "left", arcs := [4, 3, 4] }, { name := "spring", arcs := [5] }]
    placeArcs := [[5, 3, 2, 0, 3], [4, 1, 1]] }

theorem Net.shuffledRivals_validate : Net.shuffledRivals.validate = .ok () := by decide +kernel

/-- The rivals run in the same way with their indices shuffled. The first instance, whose
consumed place is then listed twice, is not in its own way. -/
theorem rivals_runs_eq :
    Net.rivals.SameTables Net.shuffledRivals ∧
      ((Engine.ofNet Net.shuffledRivals).preset 0).consumed = [0, 0] ∧
        runStory Net.rivals 3 7 ["left"] = runStory Net.shuffledRivals 3 7 ["left"] ∧
          (((Engine.ofNet Net.shuffledRivals).stepInPlace (some "left")).run
              (RunState.initial Net.rivals, Random.Cycle.ofWords [4000000000, 1])).1 =
            some { labels := ["left", "spring"], instances := [0, 3] } := by
  have tables : Net.rivals.SameTables Net.shuffledRivals := ⟨rfl, rfl, rfl, rfl⟩
  obtain ⟨-, runs, steps⟩ :=
    runs_eq_of_sameTables Net.rivals_validate Net.shuffledRivals_validate tables
  refine ⟨tables, by decide +kernel, runs 3 7 ["left"], ?_⟩
  rw [← steps]
  decide +kernel

end EventNet
