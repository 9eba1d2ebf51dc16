import EventNet.Proofs.Firing.Order
import EventNet.Proofs.Firing.Selection

/-!
# A step is a maximal choice

The accepted instances of a step are enabled at its start, no two of them consume the
same place, and none could be added: every other enabled instance consumes a place that
an accepted one consumes (`Net.MaximalStep`). This holds for every order in which the
enabled buses are considered, so it does not depend on the random source or on a
preferred bus (`step?_maximal`).

The labels of a step are read off its instances: the instances of one bus stand together,
and the labels name the buses in order. This is a general fact about lists of groups with
different labels (`labels_eq_eraseDups`, `flatMap_instances_eq`).
-/

set_option autoImplicit false

namespace EventNet

open EventNet.Random (WordSource)

/-! ## Groups of instances with different labels -/

section Groups

variable {net : Net} {groups : List EnabledBus}

/-- Among all instances those with the label of a group are the group. -/
theorem filter_flatMap_instances (labels : (groups.map EnabledBus.label).Nodup)
    (named : ∀ group ∈ groups, ∀ transition ∈ group.instances,
      net.nameOf? transition = some group.label)
    {group : EnabledBus} (member : group ∈ groups) :
    ((groups.flatMap EnabledBus.instances).filter fun transition =>
      net.nameOf? transition == some group.label) = group.instances := by
  induction groups with
  | nil => simp at member
  | cons first groups ih =>
    obtain ⟨firstNamed, restNamed⟩ := List.forall_mem_cons.1 named
    obtain ⟨fresh, restLabels⟩ := List.nodup_cons.1 labels
    rw [List.flatMap_cons, List.filter_append]
    rcases List.mem_cons.1 member with rfl | later
    · have here : (group.instances.filter fun transition =>
          net.nameOf? transition == some group.label) = group.instances :=
        List.filter_eq_self.2 fun transition listed => by simp [firstNamed transition listed]
      have elsewhere : ((groups.flatMap EnabledBus.instances).filter fun transition =>
          net.nameOf? transition == some group.label) = [] := by
        refine List.filter_eq_nil_iff.2 fun transition listed same => fresh ?_
        obtain ⟨other, inGroups, inOther⟩ := List.mem_flatMap.1 listed
        rw [restNamed other inGroups transition inOther, beq_iff_eq, Option.some_inj] at same
        exact List.mem_map.2 ⟨other, inGroups, same⟩
      rw [here, elsewhere, List.append_nil]
    · have elsewhere : (first.instances.filter fun transition =>
          net.nameOf? transition == some group.label) = [] := by
        refine List.filter_eq_nil_iff.2 fun transition listed same => fresh ?_
        rw [firstNamed transition listed, beq_iff_eq, Option.some_inj] at same
        exact List.mem_map.2 ⟨group, later, same.symm⟩
      rw [elsewhere, List.nil_append]
      exact ih restLabels restNamed later

/-- The instances stand together by label, in the order of the labels. -/
theorem flatMap_instances_eq (labels : (groups.map EnabledBus.label).Nodup)
    (named : ∀ group ∈ groups, ∀ transition ∈ group.instances,
      net.nameOf? transition = some group.label) :
    groups.flatMap EnabledBus.instances =
      (groups.map EnabledBus.label).flatMap fun label =>
        (groups.flatMap EnabledBus.instances).filter fun transition =>
          net.nameOf? transition == some label := by
  rw [List.flatMap_map]
  exact List.flatMap_congr fun group member =>
    (filter_flatMap_instances labels named member).symm

/-- A block of equal names leaves one of them in front. -/
theorem eraseDups_block {label : String} {names rest : List String} (nonempty : names ≠ [])
    (equal : ∀ name ∈ names, name = label) (fresh : label ∉ rest) :
    (names ++ rest).eraseDups = label :: rest.eraseDups := by
  obtain ⟨name, names, rfl⟩ := List.exists_cons_of_ne_nil nonempty
  obtain ⟨rfl, others⟩ := List.forall_mem_cons.1 equal
  have block : (names.filter fun other => !other == name) = [] :=
    List.filter_eq_nil_iff.2 fun other member => by simp [others other member]
  have kept : (rest.filter fun other => !other == name) = rest :=
    List.filter_eq_self.2 fun other member => by
      have different : other ≠ name := fun same => fresh (same ▸ member)
      simpa using different
  rw [List.cons_append, List.eraseDups_cons, List.filter_append, block, kept, List.nil_append]

/-- The labels are the names of the instances, each at its first occurrence. -/
theorem labels_eq_eraseDups (labels : (groups.map EnabledBus.label).Nodup)
    (nonempty : ∀ group ∈ groups, group.instances ≠ [])
    (named : ∀ group ∈ groups, ∀ transition ∈ group.instances,
      net.nameOf? transition = some group.label) :
    groups.map EnabledBus.label =
      ((groups.flatMap EnabledBus.instances).filterMap net.nameOf?).eraseDups := by
  induction groups with
  | nil => rfl
  | cons first groups ih =>
    obtain ⟨firstNamed, restNamed⟩ := List.forall_mem_cons.1 named
    obtain ⟨fresh, restLabels⟩ := List.nodup_cons.1 labels
    obtain ⟨firstNonempty, restNonempty⟩ := List.forall_mem_cons.1 nonempty
    rw [List.flatMap_cons, List.filterMap_append, List.map_cons,
      ih restLabels restNonempty restNamed]
    refine (eraseDups_block ?_ ?_ ?_).symm
    · obtain ⟨transition, transitions, listed⟩ := List.exists_cons_of_ne_nil firstNonempty
      rw [listed] at firstNamed ⊢
      simp [firstNamed transition List.mem_cons_self]
    · intro name member
      obtain ⟨transition, listed, called⟩ := List.mem_filterMap.1 member
      rw [firstNamed transition listed] at called
      exact (Option.some.inj called).symm
    · intro member
      obtain ⟨transition, listed, called⟩ := List.mem_filterMap.1 member
      obtain ⟨group, inGroups, inGroup⟩ := List.mem_flatMap.1 listed
      rw [restNamed group inGroups transition inGroup] at called
      exact fresh (List.mem_map.2 ⟨group, inGroups, Option.some.inj called⟩)

end Groups

/-! ## Choices from an agenda -/

namespace Net

/-- A step that a net may take in a marking after some sources have fired, and to which
nothing can be added. -/
structure MaximalStep (net : Net) (marking : Marking) (fired : Set TransitionId)
    (step : Step) : Prop where
  instances_ne_nil : step.instances ≠ []
  instances_nodup : step.instances.Nodup
  instances_enabled : ∀ transition ∈ step.instances, net.Enabled marking fired transition
  /-- No two instances consume the same place. -/
  instances_disjoint : ∀ first ∈ step.instances, ∀ second ∈ step.instances, first ≠ second →
    ∀ place, ¬(net.HasArc .consume first place ∧ net.HasArc .consume second place)
  /-- An enabled transition is accepted unless an accepted one consumes a place that it
  consumes as well. -/
  maximal : ∀ transition, net.Enabled marking fired transition → transition ∉ step.instances →
    ∃ accepted ∈ step.instances, ∃ place,
      net.HasArc .consume transition place ∧ net.HasArc .consume accepted place
  labels_nodup : step.labels.Nodup
  /-- The labels are the names of the instances in the order of first acceptance. -/
  labels_eq : step.labels = (step.instances.filterMap net.nameOf?).eraseDups
  /-- The instances of one label stand together. -/
  instances_grouped : step.instances = step.labels.flatMap fun label =>
    step.instances.filter fun transition => net.nameOf? transition == some label

namespace Agenda

variable {net : Net} {marking : Marking} {fired : Set TransitionId} {buses : List EnabledBus}
variable {needs : TransitionId → List PlaceId} {taken : List PlaceId}

/-- The buses of a selection from an agenda have different labels. -/
theorem labels_selected_nodup (agenda : net.Agenda marking fired buses) :
    ((selectBuses needs taken buses).map EnabledBus.label).Nodup :=
  (labels_selectBuses_sublist buses).nodup agenda.labels_nodup

/-- The instances of a selection from an agenda are named after their buses. -/
theorem selected_named (agenda : net.Agenda marking fired buses) :
    ∀ bus ∈ selectBuses needs taken buses, ∀ transition ∈ bus.instances,
      net.nameOf? transition = some bus.label := by
  intro bus selected transition listed
  obtain ⟨-, whole, member, label, cut⟩ := exists_of_mem_selectBuses selected
  rw [← label]
  exact agenda.bus_named whole member transition (cut.subset listed)

theorem instances_ne_nil (agenda : net.Agenda marking fired buses) (nonempty : buses ≠ []) :
    buses.flatMap EnabledBus.instances ≠ [] := by
  obtain ⟨bus, rest, rfl⟩ := List.exists_cons_of_ne_nil nonempty
  have busNonempty := agenda.bus_nonempty bus List.mem_cons_self
  simp [busNonempty]

/-- **Arbitration over an agenda makes a maximal choice.** -/
theorem maximalStep_arbitrate (consistent : net.Consistent)
    (agenda : net.Agenda marking fired buses) (nonempty : buses ≠ []) :
    net.MaximalStep marking fired ((Engine.ofNet net).arbitrate buses).step := by
  have instances : ((Engine.ofNet net).arbitrate buses).step.instances =
      select (Engine.ofNet net).needs [] (buses.flatMap EnabledBus.instances) := by
    rw [Engine.arbitrate_step, flatMap_selectBuses]
  have needs_iff : ∀ {transition place}, place ∈ (Engine.ofNet net).needs transition ↔
      net.HasArc .consume transition place := consistent.mem_consumed
  refine ⟨?_, ?_, ?_, ?_, ?_, ?_, ?_, ?_⟩
  · rw [instances]
    exact select_ne_nil (agenda.instances_ne_nil nonempty)
  · rw [instances]
    exact (select_sublist _).nodup agenda.instances_nodup
  · rw [instances]
    exact fun transition selected =>
      (agenda.mem_instances transition).1 ((select_sublist _).subset selected)
  · rw [instances]
    intro first firstSelected second secondSelected different place ⟨byFirst, bySecond⟩
    exact select_disjoint firstSelected secondSelected different place
      (needs_iff.2 byFirst) (needs_iff.2 bySecond)
  · rw [instances]
    intro transition enabled passed
    obtain ⟨place, needed, held | ⟨accepted, selected, shared⟩⟩ :=
      exists_taken_of_not_mem_select ((agenda.mem_instances transition).2 enabled) passed
    · simp at held
    · exact ⟨accepted, selected, place, needs_iff.1 needed, needs_iff.1 shared⟩
  · rw [Engine.arbitrate_step]
    exact agenda.labels_selected_nodup
  · rw [Engine.arbitrate_step]
    exact labels_eq_eraseDups agenda.labels_selected_nodup
      (fun bus selected => (exists_of_mem_selectBuses selected).1) agenda.selected_named
  · rw [Engine.arbitrate_step]
    exact flatMap_instances_eq agenda.labels_selected_nodup agenda.selected_named

end Agenda

end Net

/-! ## Steps -/

namespace Engine

variable {σ : Type} [WordSource σ] {engine : Engine} {preferred : Option String}
variable {state : RunState} {source : σ}

/-- There is no step exactly if no bus is enabled. -/
theorem step?_eq_none_iff :
    engine.step? preferred state source = none ↔
      engine.enabledBuses state.marking state.fired = [] := by
  simp [step?]

/-- What a step is: an arbitration over the enabled buses in some order, after which the
accepted instances have happened. -/
theorem exists_order_of_step? {arbitration : Arbitration} {after : RunState} {rest : σ}
    (taken : engine.step? preferred state source = some (arbitration, after, rest)) :
    ∃ order, order.Perm (engine.enabledBuses state.marking state.fired) ∧ order ≠ [] ∧
      arbitration = engine.arbitrate order ∧
        after =
          { marking := engine.apply arbitration.step.instances state.marking
            fired := engine.recordSources arbitration.step.instances state.fired } := by
  simp only [step?] at taken
  split at taken
  · simp at taken
  · rename_i nonempty
    simp only [Option.some.injEq, Prod.mk.injEq] at taken
    obtain ⟨rfl, rfl, rfl⟩ := taken
    exact ⟨_, preferring_shuffle_perm preferred _ source,
      preferring_shuffle_ne_nil preferred source nonempty, rfl, rfl⟩

end Engine

/-- The choice of a step is made over an agenda. -/
theorem Net.Consistent.choice_of_step? {σ : Type} [WordSource σ] {net : Net}
    (consistent : net.Consistent) {preferred : Option String} {state after : RunState}
    {source rest : σ} {arbitration : Arbitration}
    (taken : (Engine.ofNet net).step? preferred state source = some (arbitration, after, rest)) :
    net.MaximalStep state.marking state.fired.toSet arbitration.step := by
  obtain ⟨order, rearranged, nonempty, rfl, -⟩ := Engine.exists_order_of_step? taken
  have agenda := (consistent.agenda_enabledBuses state.marking state.fired).perm rearranged
  exact agenda.maximalStep_arbitrate consistent nonempty

/-- **A step is a maximal choice among the enabled transitions**, whatever is drawn and
whichever bus is preferred. -/
theorem step?_maximal {σ : Type} [WordSource σ] {net : Net} (valid : net.validate = .ok ())
    {preferred : Option String} {state after : RunState} {source rest : σ}
    {arbitration : Arbitration}
    (taken : (Engine.ofNet net).step? preferred state source = some (arbitration, after, rest)) :
    net.MaximalStep state.marking state.fired.toSet arbitration.step :=
  (Net.validate_eq_ok_iff.1 valid).choice_of_step? taken

/-- Among the rivals the first instance of one bus takes the token from the second and
from the other bus. -/
theorem rivals_step_maximal :
    ∃ arbitration after rest,
      (Engine.ofNet Net.rivals).step? none
          { marking := .initial Net.rivals, fired := .empty }
          (Random.Cycle.ofWords [4000000000, 1]) = some (arbitration, after, rest) ∧
        arbitration.step = { labels := ["left", "spring"], instances := [0, 3] } ∧
          Net.rivals.MaximalStep (.initial Net.rivals) FiredSources.empty.toSet
            arbitration.step := by
  have taken : ((Engine.ofNet Net.rivals).step? none
      { marking := .initial Net.rivals, fired := .empty }
      (Random.Cycle.ofWords [4000000000, 1])).isSome = true := by
    decide +kernel
  exact ⟨_, _, _, (Option.some_get taken).symm, by decide +kernel,
    step?_maximal Net.rivals_validate (Option.some_get taken).symm⟩

end EventNet
