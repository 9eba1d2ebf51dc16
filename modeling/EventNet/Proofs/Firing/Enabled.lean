import EventNet.Firing.Enabled
import EventNet.Proofs.Net.Consistent
import Mathlib.Data.Set.Basic

/-!
# What the arc table enables

Whether a transition may happen is a property of the arc table, the marking and the set
of sources that have fired (`Net.Enabled`). An engine decides it from places it has
looked up beforehand, through the index of the transition; in a consistent net it decides
it correctly (`Net.Consistent.isEnabled_iff`).

The enabled transitions are reached in two ways, through the table of transitions and
through the buses. `Net.Agenda` says what a list of buses must be to stand for the
enabled transitions: it lists each of them once, under its own name. The enabled buses of
an engine are an agenda (`Net.Consistent.agenda_enabledBuses`), and so is every
rearrangement of them (`Net.Agenda.perm`).
-/

set_option autoImplicit false

namespace EventNet

/-! ## Presets -/

/-- The places of one kind among arcs. -/
theorem Preset.mem_placesBy {kind : ArcKind} {arcs : List Arc} {place : PlaceId} :
    place ∈ Preset.placesBy kind arcs ↔ ∃ arc ∈ arcs, arc.kind = kind ∧ arc.place = place := by
  simp [Preset.placesBy, and_assoc]

/-- An engine has looked up the arcs of every transition. -/
theorem Engine.preset_ofNet (net : Net) (transition : TransitionId) :
    (Engine.ofNet net).preset transition = Preset.ofArcs (net.arcsOf transition) := by
  by_cases inside : transition < net.transitions.length
  · simp [Engine.preset, Engine.ofNet, inside]
  · simp [Engine.preset, Engine.ofNet, inside, Net.arcsOf, Preset.ofArcs, Preset.placesBy]

namespace Net

/-- A transition at which no arc asks for a token. -/
def IsSource (net : Net) (transition : TransitionId) : Prop :=
  ∀ arc ∈ net.arcs, arc.transition = transition → arc.kind ≠ .consume ∧ arc.kind ≠ .catalyst

instance (net : Net) (transition : TransitionId) : Decidable (net.IsSource transition) :=
  inferInstanceAs (Decidable (∀ arc ∈ net.arcs, _))

/-- A transition that may happen in a marking after some sources have fired. -/
structure Enabled (net : Net) (marking : Marking) (fired : Set TransitionId)
    (transition : TransitionId) : Prop where
  inside : transition < net.transitions.length
  consumed_marked : ∀ place, net.HasArc .consume transition place → marking.isMarked place = true
  catalyst_marked : ∀ place, net.HasArc .catalyst transition place → marking.isMarked place = true
  inhibitor_unmarked : ∀ place, net.HasArc .inhibit transition place →
    marking.isMarked place = false
  /-- A source happens once. -/
  source_fresh : net.IsSource transition → transition ∉ fired

theorem isSource_iff {net : Net} {transition : TransitionId} :
    net.IsSource transition ↔
      ∀ place, ¬net.HasArc .consume transition place ∧ ¬net.HasArc .catalyst transition place := by
  constructor
  · intro source place
    exact ⟨fun arc => (source _ arc rfl).1 rfl, fun arc => (source _ arc rfl).2 rfl⟩
  · rintro noArc ⟨place, _, kind⟩ inTable rfl
    obtain ⟨noConsume, noCatalyst⟩ := noArc place
    exact ⟨fun same => noConsume (same ▸ inTable), fun same => noCatalyst (same ▸ inTable)⟩

namespace Consistent

variable {net : Net} (consistent : net.Consistent)
include consistent

theorem mem_placesBy {kind : ArcKind} {transition : TransitionId} {place : PlaceId} :
    place ∈ Preset.placesBy kind (net.arcsOf transition) ↔ net.HasArc kind transition place := by
  simp only [Preset.mem_placesBy, consistent.mem_arcsOf]
  constructor
  · rintro ⟨arc, ⟨inTable, rfl⟩, rfl, rfl⟩
    exact inTable
  · intro arc
    exact ⟨_, ⟨arc, rfl⟩, rfl, rfl⟩

theorem mem_consumed {transition : TransitionId} {place : PlaceId} :
    place ∈ ((Engine.ofNet net).preset transition).consumed ↔
      net.HasArc .consume transition place := by
  rw [Engine.preset_ofNet]
  exact consistent.mem_placesBy

theorem mem_catalysts {transition : TransitionId} {place : PlaceId} :
    place ∈ ((Engine.ofNet net).preset transition).catalysts ↔
      net.HasArc .catalyst transition place := by
  rw [Engine.preset_ofNet]
  exact consistent.mem_placesBy

theorem mem_inhibitors {transition : TransitionId} {place : PlaceId} :
    place ∈ ((Engine.ofNet net).preset transition).inhibitors ↔
      net.HasArc .inhibit transition place := by
  rw [Engine.preset_ofNet]
  exact consistent.mem_placesBy

theorem mem_produced {transition : TransitionId} {place : PlaceId} :
    place ∈ ((Engine.ofNet net).preset transition).produced ↔
      net.HasArc .produce transition place := by
  rw [Engine.preset_ofNet]
  exact consistent.mem_placesBy

/-- An engine knows the sources. -/
theorem isSource_iff {transition : TransitionId} :
    (Engine.ofNet net).isSource transition = true ↔ net.IsSource transition := by
  simp only [Engine.isSource, Preset.isSource, Bool.and_eq_true, List.isEmpty_iff,
    List.eq_nil_iff_forall_not_mem, consistent.mem_consumed, consistent.mem_catalysts,
    Net.isSource_iff, forall_and]

end Consistent

end Net

/-! ## Enabled transitions -/

/-- The sources that have fired, as a set. -/
def FiredSources.toSet (fired : FiredSources) : Set TransitionId :=
  {transition | transition ∈ fired.members}

theorem FiredSources.contains_iff {fired : FiredSources} {transition : TransitionId} :
    fired.contains transition = true ↔ transition ∈ fired.toSet := by
  simp [FiredSources.contains, FiredSources.toSet]

theorem FiredSources.toSet_empty : FiredSources.empty.toSet = ∅ := by
  simp [FiredSources.toSet, FiredSources.empty]

namespace Net.Consistent

variable {net : Net} (consistent : net.Consistent)
include consistent

theorem holds_iff {transition : TransitionId} {marking : Marking} :
    ((Engine.ofNet net).preset transition).holds marking = true ↔
      (∀ place, net.HasArc .consume transition place → marking.isMarked place = true) ∧
        (∀ place, net.HasArc .catalyst transition place → marking.isMarked place = true) ∧
          ∀ place, net.HasArc .inhibit transition place → marking.isMarked place = false := by
  simp only [Preset.holds, Bool.and_eq_true, Bool.not_eq_true', List.all_eq_true,
    List.any_eq_false, consistent.mem_consumed, consistent.mem_catalysts,
    consistent.mem_inhibitors, and_assoc, Bool.not_eq_true]

/-- **The engine decides which of its transitions are enabled.** -/
theorem isEnabled_iff {marking : Marking} {fired : FiredSources} {transition : TransitionId}
    (inside : transition < net.transitions.length) :
    (Engine.ofNet net).isEnabled marking fired transition = true ↔
      net.Enabled marking fired.toSet transition := by
  have fresh : (!(((Engine.ofNet net).preset transition).isSource && fired.contains transition)) =
      true ↔ (net.IsSource transition → transition ∉ fired.toSet) := by
    rw [← consistent.isSource_iff, ← FiredSources.contains_iff, Engine.isSource]
    cases ((Engine.ofNet net).preset transition).isSource <;> simp
  rw [Engine.isEnabled, Bool.and_eq_true, fresh, consistent.holds_iff]
  constructor
  · rintro ⟨fresh, consumed, catalysts, inhibitors⟩
    exact ⟨inside, consumed, catalysts, inhibitors, fresh⟩
  · intro enabled
    exact ⟨enabled.source_fresh, enabled.consumed_marked, enabled.catalyst_marked,
      enabled.inhibitor_unmarked⟩

/-- The engine knows when nothing can happen any more. -/
theorem isQuiescent_iff {marking : Marking} {fired : FiredSources} :
    (Engine.ofNet net).isQuiescent marking fired = true ↔
      ∀ transition, ¬net.Enabled marking fired.toSet transition := by
  simp only [Engine.isQuiescent, Bool.not_eq_true', List.any_eq_false, List.mem_range]
  constructor
  · intro none transition enabled
    exact none transition enabled.inside ((consistent.isEnabled_iff enabled.inside).2 enabled)
  · intro none transition inside enabled
    exact none transition ((consistent.isEnabled_iff inside).1 enabled)

end Net.Consistent

/-! ## Enabled buses -/

namespace Engine

variable {engine : Engine} {marking : Marking} {fired : FiredSources}

theorem mem_enabledBuses {bus : EnabledBus} :
    bus ∈ engine.enabledBuses marking fired ↔
      ∃ entry ∈ engine.net.buses.entries, bus.label = entry.1 ∧
        bus.instances = entry.2.filter (engine.isEnabled marking fired) ∧ bus.instances ≠ [] := by
  simp only [enabledBuses, List.mem_filterMap, List.isEmpty_iff]
  constructor
  · rintro ⟨entry, inBuses, made⟩
    split at made
    · simp at made
    · rename_i nonempty
      cases made
      exact ⟨entry, inBuses, rfl, rfl, nonempty⟩
  · rintro ⟨entry, inBuses, label, instances, nonempty⟩
    rw [instances] at nonempty
    refine ⟨entry, inBuses, ?_⟩
    rw [if_neg nonempty, ← label, ← instances]

/-- The enabled buses list what the buses list and is enabled. -/
theorem flatMap_enabledBuses :
    (engine.enabledBuses marking fired).flatMap EnabledBus.instances =
      engine.net.busMembers.filter (engine.isEnabled marking fired) := by
  unfold enabledBuses Net.busMembers
  induction engine.net.buses.entries with
  | nil => rfl
  | cons entry entries ih =>
    rw [List.filterMap_cons, List.flatMap_cons, List.filter_append, ← ih]
    cases listed : entry.2.filter (engine.isEnabled marking fired) with
    | nil => simp [listed]
    | cons transition transitions => simp [listed]

theorem labels_enabledBuses_sublist :
    ((engine.enabledBuses marking fired).map EnabledBus.label).Sublist engine.net.labels := by
  unfold enabledBuses Net.labels LabelMap.keys
  induction engine.net.buses.entries with
  | nil => exact .slnil
  | cons entry entries ih =>
    rw [List.filterMap_cons, List.map_cons]
    cases listed : entry.2.filter (engine.isEnabled marking fired) with
    | nil => simpa [listed] using ih.cons _
    | cons transition transitions => simpa [listed] using ih

end Engine

namespace Net

/-- Buses that list every enabled transition once, under its own name, and nothing
else. -/
structure Agenda (net : Net) (marking : Marking) (fired : Set TransitionId)
    (buses : List EnabledBus) : Prop where
  labels_nodup : (buses.map EnabledBus.label).Nodup
  bus_nonempty : ∀ bus ∈ buses, bus.instances ≠ []
  bus_named : ∀ bus ∈ buses, ∀ transition ∈ bus.instances,
    net.nameOf? transition = some bus.label
  instances_nodup : (buses.flatMap EnabledBus.instances).Nodup
  mem_instances : ∀ transition,
    transition ∈ buses.flatMap EnabledBus.instances ↔ net.Enabled marking fired transition

/-- The order of the buses does not matter. -/
theorem Agenda.perm {net : Net} {marking : Marking} {fired : Set TransitionId}
    {buses others : List EnabledBus} (agenda : net.Agenda marking fired buses)
    (rearranged : others.Perm buses) : net.Agenda marking fired others where
  labels_nodup := (rearranged.map _).nodup_iff.2 agenda.labels_nodup
  bus_nonempty bus member := agenda.bus_nonempty bus (rearranged.mem_iff.1 member)
  bus_named bus member := agenda.bus_named bus (rearranged.mem_iff.1 member)
  instances_nodup := (rearranged.flatMap_right _).nodup_iff.2 agenda.instances_nodup
  mem_instances transition :=
    (rearranged.flatMap_right _).mem_iff.trans (agenda.mem_instances transition)

/-- **The enabled buses of an engine are an agenda.** -/
theorem Consistent.agenda_enabledBuses {net : Net} (consistent : net.Consistent)
    (marking : Marking) (fired : FiredSources) :
    net.Agenda marking fired.toSet ((Engine.ofNet net).enabledBuses marking fired) where
  labels_nodup := Engine.labels_enabledBuses_sublist.nodup net.buses.nodup
  bus_nonempty bus member := by
    obtain ⟨entry, -, -, -, nonempty⟩ := Engine.mem_enabledBuses.1 member
    exact nonempty
  bus_named bus member transition listed := by
    obtain ⟨entry, inBuses, label, instances, -⟩ := Engine.mem_enabledBuses.1 member
    rw [instances] at listed
    rw [label]
    exact consistent.bus_named entry inBuses transition (List.mem_of_mem_filter listed)
  instances_nodup := by
    rw [Engine.flatMap_enabledBuses]
    exact (consistent.buses_complete.nodup_iff.2 List.nodup_range).filter _
  mem_instances transition := by
    rw [Engine.flatMap_enabledBuses, List.mem_filter]
    have listed : transition ∈ net.busMembers ↔ transition < net.transitions.length :=
      consistent.buses_complete.mem_iff.trans List.mem_range
    constructor
    · rintro ⟨member, enabled⟩
      exact (consistent.isEnabled_iff (listed.1 member)).1 enabled
    · intro enabled
      exact ⟨listed.2 enabled.inside, (consistent.isEnabled_iff enabled.inside).2 enabled⟩

/-- No bus is enabled when no transition is. -/
theorem Consistent.enabledBuses_eq_nil_iff {net : Net} (consistent : net.Consistent)
    {marking : Marking} {fired : FiredSources} :
    (Engine.ofNet net).enabledBuses marking fired = [] ↔
      ∀ transition, ¬net.Enabled marking fired.toSet transition := by
  have agenda := consistent.agenda_enabledBuses marking fired
  constructor
  · intro empty transition enabled
    have listed := (agenda.mem_instances transition).2 enabled
    simp [empty] at listed
  · intro none
    refine List.eq_nil_iff_forall_not_mem.2 fun bus member => ?_
    obtain ⟨transition, listed⟩ := List.exists_mem_of_ne_nil _ (agenda.bus_nonempty bus member)
    exact none transition
      ((agenda.mem_instances transition).1 (List.mem_flatMap.2 ⟨bus, member, listed⟩))

end Net

end EventNet
