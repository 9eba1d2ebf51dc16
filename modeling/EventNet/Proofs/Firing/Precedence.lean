import EventNet.Proofs.Firing.Preference

/-!
# Precedence within a bus

The enabled instances of a bus are considered in the order in which the bus lists them. So an
instance that is passed over competes with an accepted one, and if the two are of one bus the
accepted one stands before it there (`Net.Consistent.exists_before_of_passed`). Where the bus
lists its members in ascending order, the accepted one is the smaller
(`Net.Consistent.givesWay`).
-/

set_option autoImplicit false

namespace EventNet

open EventNet.Random (WordSource)

namespace Net

/-- The instances compete, and if they are of one bus that is in ascending order, the accepted
one is the smaller. -/
def GivesWay (net : Net) (transition accepted : TransitionId) : Prop :=
  net.Competes accepted transition ∧ ∀ label, net.nameOf? accepted = some label →
    net.nameOf? transition = some label → (net.bus label).Pairwise (· < ·) →
      accepted < transition

namespace Consistent

variable {σ : Type} [WordSource σ] {net : Net} (consistent : net.Consistent)
variable {preferred : Option String} {state after : RunState} {source rest : σ}
variable {arbitration : Arbitration}
variable (taken : (Engine.ofNet net).step? preferred state source = some (arbitration, after, rest))
variable {transition : TransitionId}
variable (enabled : net.Enabled state.marking state.fired.toSet transition)
variable (passed : transition ∉ arbitration.step.instances)
include consistent taken enabled passed

/-- **An instance is passed over for an accepted one**, which stands before it if they are of
one bus. -/
theorem exists_before_of_passed :
    ∃ accepted ∈ arbitration.step.instances, net.Competes accepted transition ∧
      ∀ label, net.nameOf? accepted = some label → net.nameOf? transition = some label →
        [accepted, transition].Sublist (net.bus label) := by
  obtain ⟨order, rearranged, -, rfl, -⟩ := Engine.exists_order_of_step? taken
  have agenda := (consistent.agenda_enabledBuses state.marking state.fired).perm rearranged
  have instances : ((Engine.ofNet net).arbitrate order).step.instances =
      select (Engine.ofNet net).needs [] (order.flatMap EnabledBus.instances) := by
    rw [Engine.arbitrate_step, flatMap_selectBuses]
  rw [instances] at passed ⊢
  have listed := (agenda.mem_instances transition).2 enabled
  obtain ⟨place, needed, held | ⟨accepted, selected, shared, before⟩⟩ :=
    exists_before_of_not_mem_select listed passed
  · exact absurd held List.not_mem_nil
  · refine ⟨accepted, selected, consistent.competes_iff.2 ⟨place, needed, shared⟩, ?_⟩
    intro label acceptedNamed named
    obtain ⟨bus, member, inBus⟩ := List.mem_flatMap.1 listed
    obtain rfl : bus.label = label :=
      Option.some.inj ((agenda.bus_named bus member transition inBus).symm.trans named)
    -- among all instances that are considered those of this name are the enabled part of its bus
    have within := before.filter fun other => net.nameOf? other == some bus.label
    rw [filter_flatMap_instances agenda.labels_nodup agenda.bus_named member] at within
    have part := (Engine.mem_enabledBuses_iff.1 (rearranged.mem_iff.1 member)).1
    rw [part, Engine.enabledPart] at within
    have both : ([accepted, transition].filter fun other =>
        net.nameOf? other == some bus.label) = [accepted, transition] := by
      simp [acceptedNamed, named]
    rw [both] at within
    exact within.trans List.filter_sublist

/-- An instance that is passed over gives way to an accepted one. -/
theorem givesWay :
    ∃ accepted ∈ arbitration.step.instances, net.GivesWay transition accepted := by
  obtain ⟨accepted, selected, competes, before⟩ :=
    exists_before_of_passed consistent taken enabled passed
  refine ⟨accepted, selected, competes, ?_⟩
  intro label acceptedNamed named ascending
  have pair := ascending.sublist (before label acceptedNamed named)
  exact List.rel_of_pairwise_cons pair List.mem_cons_self

end Consistent

end Net

end EventNet
