import EventNet.Proofs.Firing.Competition
import EventNet.Proofs.Firing.InPlace

/-!
# What a preference does

A step may prefer the bus with some label. The enabled buses are put into the same order as
in a step without preference, from the same words, and then the preferred bus is moved to
the front (`Engine.run_stepInPlace_of_active`). If it is not among the enabled buses, nothing
is moved (`preferring_of_absent`); otherwise the other buses follow it in the order they had
(`preferring_append`).

A bus in front finds no place reserved. So it fires whenever it is enabled, with what is
chosen greedily from its enabled instances, of which the first is always chosen
(`Net.Consistent.step_front`). This is all that tells a step with preference from one
without (`stepInPlace_preference`).
-/

set_option autoImplicit false

namespace EventNet

open EventNet.Random (WordSource)

/-! ## The order of the buses -/

section Order

variable {label : String} {order : List EnabledBus}

/-- A label that no bus carries leaves the order as it is. -/
theorem preferring_of_absent (absent : ∀ bus ∈ order, bus.label ≠ label) :
    preferring (some label) order = order := by
  have none : order.find? (fun bus => bus.label == label) = none := by
    rw [List.find?_eq_none]
    exact fun bus member => by simpa using absent bus member
  simp only [preferring, none]

/-- A bus moves to the front, and the others keep their order. -/
theorem preferring_append {before after : List EnabledBus} {bus : EnabledBus}
    (earlier : ∀ other ∈ before, other.label ≠ bus.label) :
    preferring (some bus.label) (before ++ bus :: after) = bus :: (before ++ after) := by
  have found : (before ++ bus :: after).find? (fun other => other.label == bus.label) =
      some bus :=
    List.find?_eq_some_iff_append.2 ⟨by simp, before, after, rfl, by simpa using earlier⟩
  have others : ∀ other ∈ before, ¬(other.label == bus.label) = true := by
    simpa using earlier
  simp only [preferring, found]
  rw [List.eraseP_append_right _ others, List.eraseP_cons_of_pos (by simp)]

end Order

/-! ## The enabled part of a bus -/

namespace Engine

variable {engine : Engine} {marking : Marking} {fired : FiredSources}

/-- The bus with a label and its enabled instances, in the order of the bus. Without a bus
there are none. -/
def enabledPart (engine : Engine) (marking : Marking) (fired : FiredSources) (label : String) :
    EnabledBus where
  label
  instances := (engine.net.bus label).filter (engine.isEnabled marking fired)

/-- The enabled buses are the buses that have an enabled part. -/
theorem mem_enabledBuses_iff {bus : EnabledBus} :
    bus ∈ engine.enabledBuses marking fired ↔
      bus = engine.enabledPart marking fired bus.label ∧ bus.instances ≠ [] := by
  rw [mem_enabledBuses]
  constructor
  · rintro ⟨⟨label, members⟩, listed, named, instances, nonempty⟩
    refine ⟨?_, nonempty⟩
    obtain ⟨_, _⟩ := bus
    cases named
    rw [enabledPart, Net.bus, LabelMap.find?_of_mem listed]
    exact congrArg (EnabledBus.mk label) instances
  · rintro ⟨part, nonempty⟩
    have instances := congrArg EnabledBus.instances part
    rw [enabledPart, Net.bus] at instances
    cases found : engine.net.buses.find? bus.label with
    | none => exact absurd (by simpa [found] using instances) nonempty
    | some members =>
      rw [found] at instances
      exact ⟨_, LabelMap.mem_of_find? found, rfl, instances, nonempty⟩

end Engine

namespace Net

/-- A transition with this name is enabled. -/
def BusEnabled (net : Net) (marking : Marking) (fired : Set TransitionId) (label : String) :
    Prop :=
  ∃ transition, net.nameOf? transition = some label ∧ net.Enabled marking fired transition

namespace Consistent

variable {net : Net} (consistent : net.Consistent)
include consistent

/-- The bus of a label lists the transitions of this name. -/
theorem mem_bus {label : String} {transition : TransitionId} :
    transition ∈ net.bus label ↔ net.nameOf? transition = some label := by
  constructor
  · intro listed
    unfold bus at listed
    cases found : net.buses.find? label with
    | none => simp [found] at listed
    | some members =>
      rw [found] at listed
      exact consistent.bus_named _ (LabelMap.mem_of_find? found) transition listed
  · intro named
    obtain ⟨⟨other, members⟩, inBuses, rfl, inMembers⟩ := consistent.exists_bus named
    rw [bus, LabelMap.find?_of_mem inBuses]
    exact inMembers

theorem mem_enabledPart {marking : Marking} {fired : FiredSources} {label : String}
    {transition : TransitionId} :
    transition ∈ ((Engine.ofNet net).enabledPart marking fired label).instances ↔
      net.nameOf? transition = some label ∧ net.Enabled marking fired.toSet transition := by
  have listed : transition ∈ (Engine.ofNet net).net.bus label ↔
      net.nameOf? transition = some label := consistent.mem_bus
  rw [Engine.enabledPart, List.mem_filter, listed]
  exact and_congr_right fun named => consistent.isEnabled_iff (lt_of_nameOf? named)

/-- A bus is among the enabled buses if one of its transitions is enabled. -/
theorem enabledPart_mem_iff {marking : Marking} {fired : FiredSources} {label : String} :
    (Engine.ofNet net).enabledPart marking fired label ∈
        (Engine.ofNet net).enabledBuses marking fired ↔
      net.BusEnabled marking fired.toSet label := by
  rw [Engine.mem_enabledBuses_iff]
  constructor
  · rintro ⟨-, nonempty⟩
    obtain ⟨transition, listed⟩ := List.exists_mem_of_ne_nil _ nonempty
    exact ⟨transition, consistent.mem_enabledPart.1 listed⟩
  · rintro ⟨transition, enabled⟩
    exact ⟨rfl, List.ne_nil_of_mem (consistent.mem_enabledPart.2 enabled)⟩

end Consistent

end Net

/-! ## The bus in front -/

/-- The first of a list is selected if nothing is taken. -/
theorem head?_select {needs : TransitionId → List PlaceId} (transitions : List TransitionId) :
    (select needs [] transitions).head? = transitions.head? := by
  cases transitions with
  | nil => rfl
  | cons transition transitions => simp [select]

/-- **The bus in front fires**, with what is chosen greedily from its instances. -/
theorem Net.Consistent.step_front {net : Net} (consistent : net.Consistent) {marking : Marking}
    {fired : Set TransitionId} {bus : EnabledBus} {buses : List EnabledBus}
    (agenda : net.Agenda marking fired (bus :: buses)) :
    let step := ((Engine.ofNet net).arbitrate (bus :: buses)).step
    step.labels.head? = some bus.label ∧
      (∃ transition, bus.instances.head? = some transition ∧
        step.instances.head? = some transition) ∧
        (step.instances.filter fun transition => net.nameOf? transition == some bus.label) =
          net.greedy bus.instances := by
  intro step
  have nonempty : bus.instances ≠ [] := agenda.bus_nonempty bus List.mem_cons_self
  have fires : select (Engine.ofNet net).needs [] bus.instances ≠ [] := select_ne_nil nonempty
  obtain ⟨others, selected⟩ : ∃ others, selectBuses (Engine.ofNet net).needs [] (bus :: buses) =
      { bus with instances := select (Engine.ofNet net).needs [] bus.instances } :: others :=
    ⟨_, by simp only [selectBuses, if_neg (mt List.isEmpty_iff.1 fires)]; rfl⟩
  have labels : ((selectBuses (Engine.ofNet net).needs [] (bus :: buses)).map
      EnabledBus.label).Nodup := agenda.labels_selected_nodup
  have parts : step = _ := Engine.arbitrate_step _ _
  rw [parts, ← consistent.select_eq_greedy]
  refine ⟨?_, ⟨bus.instances.head nonempty, List.head?_eq_some_head nonempty, ?_⟩, ?_⟩
  · rw [selected]
    rfl
  · rw [selected, List.flatMap_cons, List.head?_append_of_ne_nil _ fires, head?_select]
    exact List.head?_eq_some_head nonempty
  · exact filter_flatMap_instances labels agenda.selected_named (selected ▸ List.mem_cons_self)

/-! ## Steps with a preference -/

namespace Engine

variable {engine : Engine} {state : RunState} {σ : Type} [WordSource σ] {source : σ}

/-- **A preference only rearranges the buses.** Whatever is preferred, the same words are
drawn for the same order, in which the preferred bus is then moved. -/
theorem run_stepInPlace_of_active (source : σ)
    (active : engine.enabledBuses state.marking state.fired ≠ []) (preferred : Option String) :
    let drawn := Random.shuffle (engine.enabledBuses state.marking state.fired) source
    let step := (engine.arbitrate (preferring preferred drawn.1)).step
    (engine.stepInPlace preferred).run (state, source) =
      (some step,
        { marking := engine.apply step.instances state.marking
          fired := engine.recordSources step.instances state.fired },
        drawn.2) := by
  rw [run_stepInPlace, step?, if_neg (mt List.isEmpty_iff.1 active)]

/-- The words that are drawn do not depend on the preference. -/
theorem stepInPlace_source (source : σ) (preferred : Option String) :
    ((engine.stepInPlace preferred).run (state, source)).2.2 =
      ((engine.stepInPlace none).run (state, source)).2.2 := by
  by_cases empty : engine.enabledBuses state.marking state.fired = []
  · rw [run_stepInPlace_of_empty empty, run_stepInPlace_of_empty empty]
  · rw [run_stepInPlace_of_active source empty, run_stepInPlace_of_active source empty]

/-- Preferring a label that no enabled bus carries makes no difference. -/
theorem step?_of_absent {label : String}
    (absent : ∀ bus ∈ engine.enabledBuses state.marking state.fired, bus.label ≠ label) :
    engine.step? (some label) state source = engine.step? none state source := by
  have shuffled := Random.shuffle_perm (engine.enabledBuses state.marking state.fired) source
  have unmoved := preferring_of_absent fun bus member => absent bus (shuffled.mem_iff.1 member)
  simp only [step?, unmoved]
  rfl

end Engine

/-- How a step with a preference for a bus that is enabled compares with the step without
it, from the same words. -/
structure Net.Favours {σ : Type} [WordSource σ] (net : Net) (state : RunState) (source : σ)
    (bus : EnabledBus) (plain guided : Step) : Prop where
  labels_head : guided.labels.head? = some bus.label
  /-- The first enabled instance of the bus happens first. -/
  instances_head : ∃ transition, bus.instances.head? = some transition ∧
    guided.instances.head? = some transition
  /-- Of the bus there happens what is chosen from it alone. -/
  accepted_eq : (guided.instances.filter fun transition =>
    net.nameOf? transition == some bus.label) = net.greedy bus.instances
  /-- Both steps consider the enabled buses in the order that is drawn, but for the preferred
  bus, which is considered first. -/
  order_eq : ∃ before after : List EnabledBus,
    (Random.shuffle ((Engine.ofNet net).enabledBuses state.marking state.fired) source).1 =
        before ++ bus :: after ∧
      plain = ((Engine.ofNet net).arbitrate (before ++ bus :: after)).step ∧
        guided = ((Engine.ofNet net).arbitrate (bus :: (before ++ after))).step

/-- **An enabled bus fires if it is preferred.** -/
theorem Net.Consistent.favours {σ : Type} [WordSource σ] {net : Net} (consistent : net.Consistent)
    {state : RunState} (source : σ) {label : String} {bus : EnabledBus}
    (member : bus ∈ (Engine.ofNet net).enabledBuses state.marking state.fired)
    (named : bus.label = label) :
    ∃ plain guided,
      (((Engine.ofNet net).stepInPlace none).run (state, source)).1 = some plain ∧
        (((Engine.ofNet net).stepInPlace (some label)).run (state, source)).1 = some guided ∧
          net.Favours state source bus plain guided := by
  subst named
  have active := List.ne_nil_of_mem member
  have shuffled :=
    Random.shuffle_perm ((Engine.ofNet net).enabledBuses state.marking state.fired) source
  obtain ⟨before, after, order⟩ := List.append_of_mem (shuffled.mem_iff.2 member)
  rw [order] at shuffled
  have agenda := (consistent.agenda_enabledBuses state.marking state.fired).perm shuffled
  have labels := agenda.labels_nodup
  have earlier : ∀ other ∈ before, other.label ≠ bus.label := by
    rw [List.map_append, List.map_cons, List.nodup_append] at labels
    exact fun other inBefore => labels.2.2 _ (List.mem_map.2 ⟨other, inBefore, rfl⟩) _
      List.mem_cons_self
  obtain ⟨labelsHead, instancesHead, accepted⟩ :=
    consistent.step_front (agenda.perm List.perm_middle.symm)
  refine ⟨_, _, ?_, ?_, labelsHead, instancesHead, accepted, before, after, order, rfl, rfl⟩
  · rw [Engine.run_stepInPlace_of_active source active, order]
    rfl
  · rw [Engine.run_stepInPlace_of_active source active, order, preferring_append earlier]

/-- Preferring a bus that is not enabled makes no difference. -/
theorem Net.Consistent.step?_of_disabled {σ : Type} [WordSource σ] {net : Net}
    (consistent : net.Consistent) {state : RunState} {source : σ} {label : String}
    (disabled : ¬net.BusEnabled state.marking state.fired.toSet label) :
    (Engine.ofNet net).step? (some label) state source =
      (Engine.ofNet net).step? none state source := by
  refine Engine.step?_of_absent fun bus member same => disabled ?_
  obtain ⟨part, -⟩ := Engine.mem_enabledBuses_iff.1 member
  rw [part, same] at member
  exact consistent.enabledPart_mem_iff.1 member

/-- The same for a step in place. -/
theorem Net.Consistent.stepInPlace_of_disabled {σ : Type} [WordSource σ] {net : Net}
    (consistent : net.Consistent) {state : RunState} (source : σ) {label : String}
    (disabled : ¬net.BusEnabled state.marking state.fired.toSet label) :
    ((Engine.ofNet net).stepInPlace (some label)).run (state, source) =
      ((Engine.ofNet net).stepInPlace none).run (state, source) := by
  rw [Engine.run_stepInPlace, Engine.run_stepInPlace, consistent.step?_of_disabled disabled]

/-- **A preference changes a step only if its bus is enabled, and then this bus fires
first.** In both cases the same words are drawn. -/
theorem stepInPlace_preference {σ : Type} [WordSource σ] {net : Net}
    (valid : net.validate = .ok ()) (state : RunState) (source : σ) (label : String) :
    let plain := ((Engine.ofNet net).stepInPlace none).run (state, source)
    let guided := ((Engine.ofNet net).stepInPlace (some label)).run (state, source)
    guided.2.2 = plain.2.2 ∧
      (¬net.BusEnabled state.marking state.fired.toSet label → guided = plain) ∧
        (net.BusEnabled state.marking state.fired.toSet label →
          ∃ plainStep guidedStep, plain.1 = some plainStep ∧ guided.1 = some guidedStep ∧
            net.Favours state source
              ((Engine.ofNet net).enabledPart state.marking state.fired label)
                plainStep guidedStep) := by
  have consistent := Net.validate_eq_ok_iff.1 valid
  exact ⟨Engine.stepInPlace_source source _, consistent.stepInPlace_of_disabled source,
    fun enabled => consistent.favours source (consistent.enabledPart_mem_iff.2 enabled) rfl⟩

/-- Among the rivals the right one loses the token to the left one, unless it is preferred.
Nothing changes if a bus is preferred that there is not. -/
theorem rivals_favour_right :
    let state : RunState := { marking := .initial Net.rivals, fired := .empty }
    let source := Random.Cycle.ofWords [4000000000, 1]
    ((Engine.ofNet Net.rivals).stepInPlace (some "up")).run (state, source) =
        ((Engine.ofNet Net.rivals).stepInPlace none).run (state, source) ∧
      Net.rivals.Favours state source
        ((Engine.ofNet Net.rivals).enabledPart state.marking state.fired "right")
        { labels := ["left", "spring"], instances := [0, 3] }
        { labels := ["right", "spring"], instances := [1, 3] } := by
  intro state source
  have consistent := Net.validate_eq_ok_iff.1 Net.rivals_validate
  have noUp : ¬Net.rivals.BusEnabled state.marking state.fired.toSet "up" := by
    rintro ⟨transition, named, -⟩
    exact List.not_mem_nil (consistent.mem_bus.2 named)
  have right : Net.rivals.BusEnabled state.marking state.fired.toSet "right" :=
    ⟨1, rfl, (consistent.isEnabled_iff (by decide)).1 (by decide +kernel)⟩
  obtain ⟨plain, guided, happens, instead, favours⟩ :=
    (stepInPlace_preference Net.rivals_validate state source "right").2.2 right
  have left : (((Engine.ofNet Net.rivals).stepInPlace none).run (state, source)).1 =
      some { labels := ["left", "spring"], instances := [0, 3] } := by decide +kernel
  have other : (((Engine.ofNet Net.rivals).stepInPlace (some "right")).run (state, source)).1 =
      some { labels := ["right", "spring"], instances := [1, 3] } := by decide +kernel
  cases happens.symm.trans left
  cases instead.symm.trans other
  exact ⟨(stepInPlace_preference Net.rivals_validate state source "up").2.1 noUp, favours⟩

end EventNet
