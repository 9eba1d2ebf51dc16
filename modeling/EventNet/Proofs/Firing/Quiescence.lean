import EventNet.Proofs.Firing.InPlace
import Mathlib.Tactic.TFAE

/-!
# When nothing can happen

What can happen is asked for in several ways. The enabled instances and quiescence are read
off the table of transitions, the enabled buses and with them every step off the buses. In
a consistent net the buses list what the table holds, in another order, so the enabled
buses together list the enabled instances
(`Net.Consistent.flatMap_enabledBuses_perm_enabledInstances`), and all ways agree on whether
there are any (`Net.Consistent.tfae_quiescent`).

A run that has become quiescent stays so: a step that does not happen leaves everything as
it was (`quiescent_tfae`).
-/

set_option autoImplicit false

namespace EventNet

open EventNet.Random (WordSource)

namespace Engine

variable {engine : Engine} {marking : Marking} {fired : FiredSources}

/-- Quiescence is that no enabled instance is listed. -/
theorem isQuiescent_iff_enabledInstances :
    engine.isQuiescent marking fired = true ↔ engine.enabledInstances marking fired = [] := by
  rw [isQuiescent, enabledInstances, List.filter_eq_nil_iff, Bool.not_eq_true', List.any_eq_false]

end Engine

namespace Net.Consistent

variable {net : Net} (consistent : net.Consistent)
include consistent

/-- **The enabled buses list the enabled instances**, bus by bus. -/
theorem flatMap_enabledBuses_perm_enabledInstances (marking : Marking) (fired : FiredSources) :
    (((Engine.ofNet net).enabledBuses marking fired).flatMap EnabledBus.instances).Perm
      ((Engine.ofNet net).enabledInstances marking fired) := by
  rw [Engine.flatMap_enabledBuses]
  exact consistent.buses_complete.filter _

/-- The ways of asking whether anything can happen agree. -/
theorem tfae_quiescent {σ : Type} [WordSource σ] (preferred : Option String) (state : RunState)
    (source : σ) :
    [(Engine.ofNet net).enabledBuses state.marking state.fired = [],
      (Engine.ofNet net).enabledInstances state.marking state.fired = [],
      (Engine.ofNet net).isQuiescent state.marking state.fired = true,
      (((Engine.ofNet net).stepInPlace preferred).run (state, source)).1 = none].TFAE := by
  have listed := consistent.flatMap_enabledBuses_perm_enabledInstances state.marking state.fired
  tfae_have 1 → 2 := by
    intro empty
    rw [empty] at listed
    exact listed.nil_eq.symm
  tfae_have 2 ↔ 3 := Engine.isQuiescent_iff_enabledInstances.symm
  tfae_have 3 → 1 := by
    intro quiescent
    exact consistent.enabledBuses_eq_nil_iff.2 (consistent.isQuiescent_iff.1 quiescent)
  tfae_have 1 ↔ 4 := Engine.run_stepInPlace_eq_none_iff.symm
  tfae_finish

end Net.Consistent

/-- **The ways of asking what can happen agree**: the enabled buses list the enabled
instances, and if there are none the net is quiescent and no step is taken. Then nothing
changes, and no later step is taken either, whatever is preferred in it. -/
theorem quiescent_tfae {σ : Type} [WordSource σ] {net : Net} (valid : net.validate = .ok ())
    (state : RunState) :
    (((Engine.ofNet net).enabledBuses state.marking state.fired).flatMap
        EnabledBus.instances).Perm
        ((Engine.ofNet net).enabledInstances state.marking state.fired) ∧
      ∀ (preferred : Option String) (source : σ),
        [(Engine.ofNet net).enabledBuses state.marking state.fired = [],
          (Engine.ofNet net).enabledInstances state.marking state.fired = [],
          (Engine.ofNet net).isQuiescent state.marking state.fired = true,
          (((Engine.ofNet net).stepInPlace preferred).run (state, source)).1 = none].TFAE ∧
        ((((Engine.ofNet net).stepInPlace preferred).run (state, source)).1 = none →
          ((Engine.ofNet net).stepInPlace preferred).run (state, source) =
            (none, state, source) ∧
          ∀ later : List (Option String),
            (later.mapM (Engine.ofNet net).stepInPlace).run (state, source) =
              (List.replicate later.length none, state, source)) := by
  have consistent := Net.validate_eq_ok_iff.1 valid
  refine ⟨consistent.flatMap_enabledBuses_perm_enabledInstances _ _, fun preferred source =>
    ⟨consistent.tfae_quiescent preferred state source, fun none => ?_⟩⟩
  have empty := Engine.run_stepInPlace_eq_none_iff.1 none
  exact ⟨Engine.run_stepInPlace_of_empty empty preferred,
    fun later => Engine.run_mapM_stepInPlace empty later⟩

/-- At the start all rivals are enabled, and all ways of asking say so. After the spring has
fired, and with no token for the others, the rivals rest, and they still rest when the spring is
preferred. -/
theorem rivals_quiescent :
    let start : RunState := { marking := .initial Net.rivals, fired := .empty }
    let state : RunState := { marking := ⟨[false, true]⟩, fired := FiredSources.empty.insert 3 }
    let source := Random.Cycle.ofWords [7]
    (((Engine.ofNet Net.rivals).enabledInstances start.marking start.fired = [0, 1, 2, 3] ∧
        (((Engine.ofNet Net.rivals).enabledBuses start.marking start.fired).flatMap
          EnabledBus.instances).Perm [0, 1, 2, 3]) ∧
      (Engine.ofNet Net.rivals).enabledBuses start.marking start.fired ≠ [] ∧
      (Engine.ofNet Net.rivals).isQuiescent start.marking start.fired = false ∧
      (((Engine.ofNet Net.rivals).stepInPlace (some "left")).run (start, source)).1 ≠ none) ∧
    (Engine.ofNet Net.rivals).isQuiescent state.marking state.fired = true ∧
      ((Engine.ofNet Net.rivals).stepInPlace (some "left")).run (state, source) =
        (none, state, source) ∧
      ([some "spring", none].mapM (Engine.ofNet Net.rivals).stepInPlace).run (state, source) =
        ([none, none], state, source) := by
  intro start state source
  constructor
  · obtain ⟨listed, ways⟩ := @quiescent_tfae Random.Cycle _ _ Net.rivals_validate start
    obtain ⟨agree, -⟩ := ways (some "left") source
    have enabled : (Engine.ofNet Net.rivals).enabledInstances start.marking start.fired =
        [0, 1, 2, 3] := by
      decide +kernel
    have busy : (Engine.ofNet Net.rivals).enabledInstances start.marking start.fired ≠ [] := by
      rw [enabled]
      exact List.cons_ne_nil _ _
    rw [enabled] at listed
    refine ⟨⟨enabled, listed⟩, mt (agree.out 0 1).1 busy, ?_, mt (agree.out 3 1).1 busy⟩
    exact Bool.eq_false_iff.2 (mt (agree.out 2 1).1 busy)
  · have quiescent : (Engine.ofNet Net.rivals).isQuiescent state.marking state.fired = true := by
      decide +kernel
    obtain ⟨agree, later⟩ := (quiescent_tfae Net.rivals_validate state).2 (some "left") source
    have rests := (agree.out 2 3).1 quiescent
    exact ⟨quiescent, (later rests).1, (later rests).2 [some "spring", none]⟩

end EventNet
