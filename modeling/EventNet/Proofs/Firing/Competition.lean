import EventNet.Proofs.Firing.Selection

/-!
# Competition for tokens

Two transitions compete if they consume from the same place. Which instances of a list are
accepted when nothing is reserved can be said in these terms alone, without the places that
an arbitration keeps: an instance is chosen unless it competes with one chosen before it
(`Net.greedy`), and this is what an arbitration selects (`Net.Consistent.select_eq_greedy`).

What is reserved matters to an instance only on the places that it needs (`select_congr`).
So if the instances of different buses never compete, no bus notices what the others have
reserved, and from every bus is selected what would be selected from it alone, in whatever
order the buses are considered (`selectBuses_eq_map`, `Net.Agenda.arbitrate_step_of_buses_apart`).
-/

set_option autoImplicit false

namespace EventNet

/-! ## Transitions that compete -/

namespace Net

/-- Two transitions consume from the same place. -/
def Competes (net : Net) (first second : TransitionId) : Prop :=
  ∃ place, net.HasArc .consume first place ∧ net.HasArc .consume second place

instance (net : Net) (first second : TransitionId) : Decidable (net.Competes first second) :=
  decidable_of_iff
    (∃ arc ∈ net.arcs, (arc.kind = .consume ∧ arc.transition = first) ∧
      net.HasArc .consume second arc.place)
    ⟨fun ⟨arc, listed, ⟨consumes, atFirst⟩, shared⟩ =>
      ⟨arc.place, atFirst ▸ consumes ▸ listed, shared⟩,
    fun ⟨_, byFirst, bySecond⟩ => ⟨_, byFirst, ⟨rfl, rfl⟩, bySecond⟩⟩

/-- Chooses a transition as well, unless it competes with one that has been chosen. -/
def choose (net : Net) (chosen : List TransitionId) (transition : TransitionId) :
    List TransitionId :=
  if ∃ earlier ∈ chosen, net.Competes earlier transition then chosen else chosen ++ [transition]

/-- Chooses among transitions in order. -/
def greedy (net : Net) (transitions : List TransitionId) : List TransitionId :=
  transitions.foldl net.choose []

/-- No place is consumed by transitions of different names. Those of one name may compete. -/
def BusesApart (net : Net) : Prop :=
  ∀ first second, net.Competes first second → net.nameOf? first = net.nameOf? second

instance (net : Net) : Decidable net.BusesApart :=
  decidable_of_iff
    (∀ first ∈ net.arcs, ∀ second ∈ net.arcs, first.kind = .consume → second.kind = .consume →
      first.place = second.place → net.nameOf? first.transition = net.nameOf? second.transition)
    ⟨fun apart _ _ ⟨_, byFirst, bySecond⟩ => apart _ byFirst _ bySecond rfl rfl rfl,
    fun apart first byFirst _ bySecond firstConsumes secondConsumes same =>
      apart _ _ ⟨first.place, firstConsumes ▸ byFirst, secondConsumes ▸ same ▸ bySecond⟩⟩

end Net

/-! ## What is reserved -/

section Selection

variable {needs : TransitionId → List PlaceId} {taken others : List PlaceId}

theorem mem_takenAfter {accepted : List TransitionId} {place : PlaceId} :
    place ∈ takenAfter needs taken accepted ↔
      place ∈ taken ∨ ∃ transition ∈ accepted, place ∈ needs transition := by
  induction accepted generalizing taken with
  | nil => simp [takenAfter]
  | cons transition accepted ih =>
    rw [takenAfter, List.foldl_cons, ← takenAfter, ih, List.mem_append, List.exists_mem_cons_iff]
    tauto

theorem any_taken_iff {transition : TransitionId} :
    (needs transition).any taken.contains = true ↔ ∃ place ∈ needs transition, place ∈ taken := by
  simp

/-- Of what is taken only the places that the transitions need make a difference. -/
theorem select_congr {transitions : List TransitionId}
    (same : ∀ transition ∈ transitions, ∀ place ∈ needs transition,
      (place ∈ taken ↔ place ∈ others)) :
    select needs taken transitions = select needs others transitions := by
  induction transitions generalizing taken others with
  | nil => rfl
  | cons transition transitions ih =>
    obtain ⟨first, later⟩ := List.forall_mem_cons.1 same
    have conflict :
        (needs transition).any taken.contains = (needs transition).any others.contains := by
      rw [Bool.eq_iff_iff, any_taken_iff, any_taken_iff]
      exact exists_congr fun place => and_congr_right (first place)
    have rest : select needs (needs transition ++ taken) transitions =
        select needs (needs transition ++ others) transitions :=
      ih fun other listed place needed => by
        rw [List.mem_append, List.mem_append, later other listed place needed]
    rw [select, select, conflict, ih later, rest]

/-- **From buses that need different places each bus gets what it would get alone.** -/
theorem selectBuses_eq_map {buses : List EnabledBus}
    (nonempty : ∀ bus ∈ buses, bus.instances ≠ [])
    (free : ∀ bus ∈ buses, ∀ transition ∈ bus.instances, ∀ place ∈ needs transition,
      place ∉ taken)
    (apart : buses.Pairwise fun first second => ∀ transition ∈ first.instances,
      ∀ other ∈ second.instances, ∀ place ∈ needs transition, place ∉ needs other) :
    selectBuses needs taken buses =
      buses.map fun bus => { bus with instances := select needs [] bus.instances } := by
  induction buses generalizing taken with
  | nil => rfl
  | cons bus buses ih =>
    obtain ⟨busNonempty, othersNonempty⟩ := List.forall_mem_cons.1 nonempty
    obtain ⟨busFree, othersFree⟩ := List.forall_mem_cons.1 free
    obtain ⟨fromOthers, othersApart⟩ := List.pairwise_cons.1 apart
    have alone : select needs taken bus.instances = select needs [] bus.instances :=
      select_congr fun transition listed place needed =>
        iff_of_false (busFree transition listed place needed) List.not_mem_nil
    have stillFree : ∀ other ∈ buses, ∀ transition ∈ other.instances,
        ∀ place ∈ needs transition,
          place ∉ takenAfter needs taken (select needs [] bus.instances) := by
      intro other member transition listed place needed held
      rcases mem_takenAfter.1 held with before | ⟨accepted, selected, shared⟩
      · exact othersFree other member transition listed place needed before
      · exact fromOthers other member accepted ((select_sublist _).subset selected) transition
          listed place shared needed
    have fires : ¬(select needs [] bus.instances).isEmpty = true := fun empty =>
      select_ne_nil busNonempty (List.isEmpty_iff.1 empty)
    rw [selectBuses, alone, List.map_cons]
    simp only [if_neg fires]
    rw [ih othersNonempty stillFree othersApart]

end Selection

/-! ## What an arbitration selects -/

namespace Net

variable {net : Net}

namespace Consistent

variable (consistent : net.Consistent)
include consistent

theorem competes_iff {first second : TransitionId} :
    net.Competes first second ↔
      ∃ place ∈ (Engine.ofNet net).needs second, place ∈ (Engine.ofNet net).needs first := by
  simp only [Competes, Engine.needs, consistent.mem_consumed]
  exact exists_congr fun place => and_comm

/-- **An arbitration chooses greedily**: it passes over what competes with an earlier
choice. -/
theorem select_eq_greedy (transitions : List TransitionId) :
    select (Engine.ofNet net).needs [] transitions = net.greedy transitions := by
  -- the places that are taken are those that the chosen transitions need
  have chosenSoFar : ∀ chosen : List TransitionId, transitions.foldl net.choose chosen =
      chosen ++ select (Engine.ofNet net).needs
        (takenAfter (Engine.ofNet net).needs [] chosen) transitions := by
    induction transitions with
    | nil => simp [select]
    | cons transition transitions ih =>
      intro chosen
      have conflict : (∃ earlier ∈ chosen, net.Competes earlier transition) ↔
          ((Engine.ofNet net).needs transition).any
            (takenAfter (Engine.ofNet net).needs [] chosen).contains = true := by
        simp only [any_taken_iff, mem_takenAfter, consistent.competes_iff]
        grind
      rw [List.foldl_cons, choose, select]
      by_cases competes : ∃ earlier ∈ chosen, net.Competes earlier transition
      · rw [if_pos competes, if_pos (conflict.1 competes), ih]
      · rw [if_neg competes, if_neg (mt conflict.2 competes), ih, List.append_assoc,
          takenAfter, List.foldl_append]
        rfl
  exact (chosenSoFar []).symm

end Consistent

/-- **Where the buses do not compete every enabled bus fires**, with what is chosen greedily
from it alone, whatever the order of the buses. -/
theorem Agenda.arbitrate_step_of_buses_apart (consistent : net.Consistent)
    (apart : net.BusesApart) {marking : Marking} {fired : Set TransitionId}
    {buses : List EnabledBus} (agenda : net.Agenda marking fired buses) :
    ((Engine.ofNet net).arbitrate buses).step =
      { labels := buses.map EnabledBus.label
        instances := buses.flatMap fun bus => net.greedy bus.instances } := by
  have different : buses.Pairwise fun first second => first.label ≠ second.label :=
    List.pairwise_map.1 agenda.labels_nodup
  have alone : selectBuses (Engine.ofNet net).needs [] buses =
      buses.map fun bus => { bus with instances := net.greedy bus.instances } := by
    rw [selectBuses_eq_map agenda.bus_nonempty (by simp)]
    · simp only [consistent.select_eq_greedy]
    · refine different.imp_of_mem fun {first second} inFirst inSecond labels => ?_
      intro transition listed other listedOther place needed shared
      have competes : net.Competes transition other :=
        consistent.competes_iff.2 ⟨place, shared, needed⟩
      have named := apart transition other competes
      rw [agenda.bus_named first inFirst transition listed,
        agenda.bus_named second inSecond other listedOther, Option.some_inj] at named
      exact labels named
  rw [Engine.arbitrate_step, alone, List.map_map, List.flatMap_map]
  rfl

end Net

end EventNet
