import EventNet.Proofs.Firing.Step

/-!
# Steps in place

`Engine.step?` gives the state after a step, or nothing. Whoever drives an engine hands it a
marking, a set of fired sources and a source of words, and has them changed one after the
other: the words are drawn when the buses are put into an order, the marking changes when
the accepted instances happen, and the sources among them are recorded one by one
(`Engine.stepInPlace`).

Both are the same step (`Engine.run_stepInPlace`). Where there is none, nothing has been
changed, and so there is none later either, however often and with whatever preferences it
is asked for (`Engine.run_mapM_stepInPlace`).
-/

set_option autoImplicit false

namespace EventNet

open EventNet.Random (WordSource)

variable {σ : Type}

namespace Engine

/-! ## The parts of a step -/

section Parts

variable (engine : Engine)

/-- Puts the buses into a random order. -/
def drawOrder [WordSource σ] (buses : List EnabledBus) :
    StateM (RunState × σ) (List EnabledBus) :=
  modifyGet fun (state, source) =>
    let (order, source) := Random.shuffle buses source
    (order, state, source)

/-- Lets accepted instances happen. -/
def happen (instances : List TransitionId) : StateM (RunState × σ) Unit :=
  modify fun (state, source) =>
    ({ state with marking := engine.apply instances state.marking }, source)

/-- Records that an instance has fired, if it is a source. -/
def recordFired (transition : TransitionId) : StateM (RunState × σ) Unit := do
  if engine.isSource transition then
    modify fun (state, source) => ({ state with fired := state.fired.insert transition }, source)

/-- One step, which changes the state of the run and draws from the source of words. -/
def stepInPlace [WordSource σ] (preferred : Option String) :
    StateM (RunState × σ) (Option Step) := do
  let (state, _) ← get
  let buses := engine.enabledBuses state.marking state.fired
  if buses.isEmpty then return none
  let order ← drawOrder buses
  let accepted := (engine.arbitrate (preferring preferred order)).step
  engine.happen accepted.instances
  forM accepted.instances engine.recordFired
  return some accepted

end Parts

variable {engine : Engine} {state : RunState} {source : σ}

theorem run_recordFired (transition : TransitionId) (state : RunState) (source : σ) :
    (engine.recordFired transition).run (state, source) =
      ((), { state with fired := engine.recordSources [transition] state.fired }, source) := by
  unfold recordFired recordSources
  cases isSource : engine.isSource transition with
  | true =>
    rw [if_pos rfl, StateT.run_modify, List.filter_cons_of_pos isSource]
    rfl
  | false =>
    rw [if_neg Bool.false_ne_true, List.filter_cons_of_neg (by simp [isSource])]
    rfl

/-- Recording one instance after another records the sources among them. -/
theorem run_forM_recordFired (instances : List TransitionId) (state : RunState) (source : σ) :
    (forM instances engine.recordFired).run (state, source) =
      ((), { state with fired := engine.recordSources instances state.fired }, source) := by
  induction instances generalizing state with
  | nil => rfl
  | cons transition instances ih =>
    have split : engine.recordSources (transition :: instances) state.fired =
        engine.recordSources instances (engine.recordSources [transition] state.fired) := by
      rw [recordSources, recordSources, recordSources, ← List.foldl_append, ← List.filter_append,
        List.singleton_append]
    rw [List.forM_cons, StateT.run_bind, run_recordFired, split]
    exact ih _

/-! ## The whole step -/

section Whole

variable [WordSource σ]

/-- **A step in place is the step that there is**, and where there is none nothing is
changed. -/
theorem run_stepInPlace (preferred : Option String) (state : RunState) (source : σ) :
    (engine.stepInPlace preferred).run (state, source) =
      match engine.step? preferred state source with
      | none => (none, state, source)
      | some (arbitration, after, rest) => (some arbitration.step, after, rest) := by
  unfold stepInPlace step?
  rw [StateT.run_bind]
  simp only [StateT.run_get, pure_bind]
  by_cases empty : (engine.enabledBuses state.marking state.fired).isEmpty = true
  · rw [if_pos empty, if_pos empty]
    rfl
  · rw [if_neg empty, if_neg empty]
    simp only [drawOrder, happen, StateT.run_bind, StateT.run_modify, StateT.run_modifyGet,
      pure_bind, run_forM_recordFired, StateT.run_pure]
    rfl

theorem run_stepInPlace_eq_none_iff {preferred : Option String} :
    ((engine.stepInPlace preferred).run (state, source)).1 = none ↔
      engine.enabledBuses state.marking state.fired = [] := by
  have noStep : engine.step? preferred state source = none ↔
      engine.enabledBuses state.marking state.fired = [] := step?_eq_none_iff
  rw [run_stepInPlace, ← noStep]
  cases engine.step? preferred state source <;> simp

/-- Where no bus is enabled nothing is changed. -/
theorem run_stepInPlace_of_empty (empty : engine.enabledBuses state.marking state.fired = [])
    (preferred : Option String) :
    (engine.stepInPlace preferred).run (state, source) = (none, state, source) := by
  rw [run_stepInPlace, step?_eq_none_iff.2 empty]

/-- Where no bus is enabled no later step is taken either. -/
theorem run_mapM_stepInPlace (empty : engine.enabledBuses state.marking state.fired = [])
    (preferences : List (Option String)) :
    (preferences.mapM engine.stepInPlace).run (state, source) =
      (List.replicate preferences.length none, state, source) := by
  induction preferences with
  | nil => rfl
  | cons preferred preferences ih =>
    have rest : (do
        let later ← preferences.mapM engine.stepInPlace
        return none :: later : StateM (RunState × σ) (List (Option Step))).run (state, source) =
          (none :: List.replicate preferences.length none, state, source) := by
      rw [StateT.run_bind, ih]
      rfl
    rw [List.mapM_cons, StateT.run_bind, run_stepInPlace_of_empty empty]
    exact rest

end Whole

end Engine

end EventNet
