import EventNet.Proofs.Firing.Competition
import EventNet.Proofs.Firing.Effect

/-!
# Nets that correspond

What an engine decides depends on which arcs there are at a transition, not on the numbers
that their places have and not on how the indices of the net list them. Two nets correspond
along a pairing of their places if the same transitions stand in the same buses and have
arcs of the same kinds to places that are paired (`Net.Corresponds`).

Markings correspond if paired places hold the same. In corresponding states the same
transitions are enabled (`Net.Corresponds.isEnabled_eq`), an arbitration accepts and passes
over the same instances (`Net.Corresponds.arbitrate`), and a step with the same words leads
to states that correspond again (`Net.Corresponds.step?`). The fired sources are then even
equal, since transitions are not renumbered.
-/

set_option autoImplicit false

namespace EventNet

open EventNet.Random (WordSource)

variable {pairs : PlaceId → PlaceId → Prop}

/-! ## Nets and markings -/

/-- The nets differ only in the numbers of their places, which are paired, and in what the
indices look like. -/
structure Net.Corresponds (pairs : PlaceId → PlaceId → Prop) (first second : Net) : Prop where
  length_transitions : first.transitions.length = second.transitions.length
  buses_eq : first.buses = second.buses
  /-- Places are paired one to one. -/
  one_to_one : ∀ {place other partner otherPartner : PlaceId}, pairs place partner →
    pairs other otherPartner → (place = other ↔ partner = otherPartner)
  arc_forth : ∀ {kind : ArcKind} {transition : TransitionId} {place : PlaceId},
    first.HasArc kind transition place →
      ∃ partner, pairs place partner ∧ second.HasArc kind transition partner
  arc_back : ∀ {kind : ArcKind} {transition : TransitionId} {partner : PlaceId},
    second.HasArc kind transition partner →
      ∃ place, pairs place partner ∧ first.HasArc kind transition place

/-- Paired places are both outside, or both marked, or both unmarked. -/
def Marking.Corresponds (pairs : PlaceId → PlaceId → Prop) (first second : Marking) : Prop :=
  ∀ place partner, pairs place partner → first.marks[place]? = second.marks[partner]?

theorem Marking.Corresponds.isMarked_eq {first second : Marking}
    (markings : first.Corresponds pairs second) {place partner : PlaceId}
    (paired : pairs place partner) : first.isMarked place = second.isMarked partner := by
  rw [Marking.isMarked, Marking.isMarked, markings place partner paired]

/-- The markings correspond, and the same sources have fired. -/
structure RunState.Corresponds (pairs : PlaceId → PlaceId → Prop) (first second : RunState) :
    Prop where
  marking : first.marking.Corresponds pairs second.marking
  fired_eq : first.fired = second.fired

namespace Net.Corresponds

variable {first second : Net} (nets : first.Corresponds pairs second)
variable {kind : ArcKind} {transition : TransitionId}
include nets

theorem hasArc_iff {place partner : PlaceId} (paired : pairs place partner) :
    first.HasArc kind transition place ↔ second.HasArc kind transition partner := by
  constructor
  · intro arc
    obtain ⟨other, pairedOther, arcThere⟩ := nets.arc_forth arc
    rwa [(nets.one_to_one paired pairedOther).1 rfl]
  · intro arc
    obtain ⟨other, pairedOther, arcHere⟩ := nets.arc_back arc
    rwa [(nets.one_to_one paired pairedOther).2 rfl]

/-- Something holds of all places at a transition if what it is paired with holds of their
partners. -/
theorem forall_arc_iff {holds holdsOther : PlaceId → Prop}
    (same : ∀ place partner, pairs place partner → (holds place ↔ holdsOther partner)) :
    (∀ place, first.HasArc kind transition place → holds place) ↔
      ∀ partner, second.HasArc kind transition partner → holdsOther partner := by
  constructor
  · intro all partner arc
    obtain ⟨place, paired, arcHere⟩ := nets.arc_back arc
    exact (same place partner paired).1 (all place arcHere)
  · intro all place arc
    obtain ⟨partner, paired, arcThere⟩ := nets.arc_forth arc
    exact (same place partner paired).2 (all partner arcThere)

theorem isSource_iff : first.IsSource transition ↔ second.IsSource transition := by
  have unreached : ∀ kind, (∀ place, ¬first.HasArc kind transition place) ↔
      ∀ partner, ¬second.HasArc kind transition partner := by
    intro kind
    exact nets.forall_arc_iff fun _ _ _ => Iff.rfl
  rw [Net.isSource_iff, Net.isSource_iff, forall_and, forall_and]
  exact and_congr (unreached .consume) (unreached .catalyst)

end Net.Corresponds

/-! ## What is enabled -/

/-- The mark of a place after many places have been set. -/
theorem Marking.getElem?_foldl_set {marking : Marking} {value : Bool} {places : List PlaceId}
    {other : PlaceId} :
    (places.foldl (fun marking place => marking.set place value) marking).marks[other]? =
      if other ∈ places then marking.marks[other]?.map fun _ => value
      else marking.marks[other]? := by
  induction places generalizing marking with
  | nil => simp
  | cons place places ih =>
    have here : (marking.set place value).marks[other]? =
        if other = place then marking.marks[other]?.map fun _ => value
        else marking.marks[other]? := by
      rw [Marking.set, List.getElem?_set]
      by_cases same : place = other
      · subst same
        by_cases inside : place < marking.marks.length <;> simp [inside]
      · have different : ¬other = place := fun equal => same equal.symm
        simp [same, different]
    rw [List.foldl_cons, ih, here]
    by_cases same : other = place
    · simp [same, Function.comp_def]
    · simp [same]

namespace Net.Corresponds

variable {first second : Net} (nets : first.Corresponds pairs second)
variable (consistent : first.Consistent) (consistentOther : second.Consistent)
include nets consistent consistentOther

theorem engine_isSource_eq :
    (Engine.ofNet first).isSource = (Engine.ofNet second).isSource := by
  funext transition
  rw [Bool.eq_iff_iff, consistent.isSource_iff, consistentOther.isSource_iff]
  exact nets.isSource_iff

/-- **In corresponding states the same transitions are enabled.** -/
theorem isEnabled_eq {state other : RunState} (states : state.Corresponds pairs other) :
    (Engine.ofNet first).isEnabled state.marking state.fired =
      (Engine.ofNet second).isEnabled other.marking other.fired := by
  funext transition
  have source := congrFun (nets.engine_isSource_eq consistent consistentOther) transition
  have marked : ∀ (value : Bool) (place partner : PlaceId), pairs place partner →
      (state.marking.isMarked place = value ↔ other.marking.isMarked partner = value) := by
    intro value place partner paired
    rw [states.marking.isMarked_eq paired]
  have holds : ((Engine.ofNet first).preset transition).holds state.marking =
      ((Engine.ofNet second).preset transition).holds other.marking := by
    rw [Bool.eq_iff_iff, consistent.holds_iff, consistentOther.holds_iff]
    exact and_congr (nets.forall_arc_iff (marked true))
      (and_congr (nets.forall_arc_iff (marked true)) (nets.forall_arc_iff (marked false)))
  simp only [Engine.isSource] at source
  simp only [Engine.isEnabled, source, holds, states.fired_eq]

theorem enabledBuses_eq {state other : RunState} (states : state.Corresponds pairs other) :
    (Engine.ofNet first).enabledBuses state.marking state.fired =
      (Engine.ofNet second).enabledBuses other.marking other.fired := by
  have buses : (Engine.ofNet first).net.buses = (Engine.ofNet second).net.buses := nets.buses_eq
  simp only [Engine.enabledBuses, buses, nets.isEnabled_eq consistent consistentOther states]

theorem isQuiescent_eq {state other : RunState} (states : state.Corresponds pairs other) :
    (Engine.ofNet first).isQuiescent state.marking state.fired =
      (Engine.ofNet second).isQuiescent other.marking other.fired := by
  have length : (Engine.ofNet first).net.transitions.length =
      (Engine.ofNet second).net.transitions.length := nets.length_transitions
  simp only [Engine.isQuiescent, length, nets.isEnabled_eq consistent consistentOther states]

end Net.Corresponds

/-! ## Arbitration -/

/-- The same has been accepted and passed over, and of paired places both are reserved or
none is. -/
structure Arbitration.Corresponds (pairs : PlaceId → PlaceId → Prop)
    (first second : Arbitration) : Prop where
  step_eq : first.step = second.step
  displaced_eq : first.displaced = second.displaced
  reserved_iff : ∀ place partner, pairs place partner →
    (place ∈ first.reserved ↔ partner ∈ second.reserved)

namespace Net.Corresponds

variable {first second : Net} (nets : first.Corresponds pairs second)
variable (consistent : first.Consistent) (consistentOther : second.Consistent)
include nets consistent consistentOther

theorem mem_needs_iff {transition : TransitionId} {place partner : PlaceId}
    (paired : pairs place partner) :
    place ∈ (Engine.ofNet first).needs transition ↔
      partner ∈ (Engine.ofNet second).needs transition := by
  rw [Engine.needs, Engine.needs, consistent.mem_consumed, consistentOther.mem_consumed]
  exact nets.hasArc_iff paired

theorem conflict_eq {choice other : Arbitration} (choices : choice.Corresponds pairs other)
    (transition : TransitionId) :
    ((Engine.ofNet first).needs transition).any choice.reserved.contains =
      ((Engine.ofNet second).needs transition).any other.reserved.contains := by
  rw [Bool.eq_iff_iff, any_taken_iff, any_taken_iff]
  constructor
  · rintro ⟨place, needed, reserved⟩
    obtain ⟨partner, paired, -⟩ := nets.arc_forth (consistent.mem_consumed.1 needed)
    exact ⟨partner, (nets.mem_needs_iff consistent consistentOther paired).1 needed,
      (choices.reserved_iff place partner paired).1 reserved⟩
  · rintro ⟨partner, needed, reserved⟩
    obtain ⟨place, paired, -⟩ := nets.arc_back (consistentOther.mem_consumed.1 needed)
    exact ⟨place, (nets.mem_needs_iff consistent consistentOther paired).2 needed,
      (choices.reserved_iff place partner paired).2 reserved⟩

/-- An instance is accepted on both sides or passed over on both. -/
theorem consider {choice other : Arbitration} (choices : choice.Corresponds pairs other)
    (label : String) (transition : TransitionId) :
    ((Engine.ofNet first).consider label choice transition).Corresponds pairs
      ((Engine.ofNet second).consider label other transition) := by
  have conflict := nets.conflict_eq consistent consistentOther choices transition
  by_cases here : ((Engine.ofNet first).needs transition).any choice.reserved.contains = true
  · have there := conflict ▸ here
    rw [Engine.consider_of_conflict _ here, Engine.consider_of_conflict _ there]
    refine ⟨choices.step_eq, ?_, choices.reserved_iff⟩
    simp only [choices.displaced_eq]
  · have there := conflict ▸ here
    rw [Engine.consider_of_free _ here, Engine.consider_of_free _ there]
    refine ⟨?_, choices.displaced_eq, ?_⟩
    · simp only [choices.step_eq]
    · intro place partner paired
      rw [List.mem_append, List.mem_append, choices.reserved_iff place partner paired,
        nets.mem_needs_iff consistent consistentOther paired]

theorem considerBus {choice other : Arbitration} (choices : choice.Corresponds pairs other)
    (bus : EnabledBus) :
    ((Engine.ofNet first).considerBus choice bus).Corresponds pairs
      ((Engine.ofNet second).considerBus other bus) := by
  have gone : (bus.instances.foldl ((Engine.ofNet first).consider bus.label) choice).Corresponds
      pairs (bus.instances.foldl ((Engine.ofNet second).consider bus.label) other) := by
    refine List.foldl_rel choices ?_
    intro transition _ before otherBefore alike
    exact nets.consider consistent consistentOther alike bus.label transition
  unfold Engine.considerBus
  simp only [choices.step_eq, gone.step_eq]
  split
  · exact ⟨rfl, gone.displaced_eq, gone.reserved_iff⟩
  · exact gone

/-- **An arbitration over the same buses comes to the same.** -/
theorem arbitrate (buses : List EnabledBus) :
    ((Engine.ofNet first).arbitrate buses).Corresponds pairs
      ((Engine.ofNet second).arbitrate buses) := by
  have start : ({} : Arbitration).Corresponds pairs {} := by
    refine ⟨rfl, rfl, ?_⟩
    intro place partner _
    exact iff_of_false List.not_mem_nil List.not_mem_nil
  refine List.foldl_rel start ?_
  intro bus _ before otherBefore alike
  exact nets.considerBus consistent consistentOther alike bus

/-! ## Steps -/

theorem apply {marking other : Marking} (markings : marking.Corresponds pairs other)
    (instances : List TransitionId) :
    ((Engine.ofNet first).apply instances marking).Corresponds pairs
      ((Engine.ofNet second).apply instances other) := by
  intro place partner paired
  have consumed : place ∈ (instances.flatMap fun transition =>
      ((Engine.ofNet first).preset transition).consumed) ↔
        partner ∈ instances.flatMap fun transition =>
          ((Engine.ofNet second).preset transition).consumed := by
    simp only [List.mem_flatMap, consistent.mem_consumed, consistentOther.mem_consumed,
      nets.hasArc_iff paired]
  have produced : place ∈ (instances.flatMap fun transition =>
      ((Engine.ofNet first).preset transition).produced) ↔
        partner ∈ instances.flatMap fun transition =>
          ((Engine.ofNet second).preset transition).produced := by
    simp only [List.mem_flatMap, consistent.mem_produced, consistentOther.mem_produced,
      nets.hasArc_iff paired]
  simp only [Engine.apply, Marking.getElem?_foldl_set, consumed, produced,
    markings place partner paired]

theorem recordSources_eq (instances : List TransitionId) (fired : FiredSources) :
    (Engine.ofNet first).recordSources instances fired =
      (Engine.ofNet second).recordSources instances fired := by
  simp only [Engine.recordSources, nets.engine_isSource_eq consistent consistentOther]

end Net.Corresponds

/-- What a step gives corresponds, and the same words have been drawn. -/
structure StepsCorrespond (pairs : PlaceId → PlaceId → Prop) {σ : Type}
    (first second : Arbitration × RunState × σ) : Prop where
  choice : first.1.Corresponds pairs second.1
  state : first.2.1.Corresponds pairs second.2.1
  source_eq : first.2.2 = second.2.2

/-- **A step from corresponding states leads to corresponding states**, and it is taken on
both sides or on none. -/
theorem Net.Corresponds.step? {σ : Type} [WordSource σ] {first second : Net}
    (nets : first.Corresponds pairs second) (consistent : first.Consistent)
    (consistentOther : second.Consistent) {state other : RunState}
    (states : state.Corresponds pairs other) (preferred : Option String) (source : σ) :
    Option.Rel (StepsCorrespond pairs) ((Engine.ofNet first).step? preferred state source)
      ((Engine.ofNet second).step? preferred other source) := by
  unfold Engine.step?
  rw [nets.enabledBuses_eq consistent consistentOther states]
  dsimp only
  split
  · exact .none
  · have choices := nets.arbitrate consistent consistentOther (preferring preferred
      (Random.shuffle ((Engine.ofNet second).enabledBuses other.marking other.fired) source).1)
    refine .some ⟨choices, ⟨?_, ?_⟩, rfl⟩
    · rw [choices.step_eq]
      exact nets.apply consistent consistentOther states.marking _
    · rw [choices.step_eq, states.fired_eq]
      exact nets.recordSources_eq consistent consistentOther _ _

end EventNet
