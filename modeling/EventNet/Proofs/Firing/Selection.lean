import EventNet.Firing.Step
import EventNet.Proofs.Firing.Enabled

/-!
# Greedy selection

Arbitration goes through the instances of the buses one after another and accepts what
does not need a place that is already taken. On the level of instances this is a greedy
selection from a list (`select`): the selected instances need different places, and what
is not selected needs a place that is taken.

The two nested loops of an arbitration are related to it in two steps. The instances of
one bus are selected with the places that are taken by then (`Engine.foldl_consider`), and
the selections from the buses are together the selection from all instances in a row
(`flatMap_selectBuses`). What an arbitration returns is described by the buses cut down
to their selected instances (`Engine.arbitrate_step`).
-/

set_option autoImplicit false

namespace EventNet

section Selection

variable {needs : TransitionId → List PlaceId} {taken : List PlaceId}

/-- Takes instances one after another, and passes over those that need a place that is
taken by then. -/
def select (needs : TransitionId → List PlaceId) : (taken : List PlaceId) →
    List TransitionId → List TransitionId
  | _, [] => []
  | taken, transition :: transitions =>
    if (needs transition).any taken.contains then select needs taken transitions
    else transition :: select needs (needs transition ++ taken) transitions

/-- The places that are taken after instances have been accepted. -/
def takenAfter (needs : TransitionId → List PlaceId) (taken : List PlaceId)
    (accepted : List TransitionId) : List PlaceId :=
  accepted.foldl (fun taken transition => needs transition ++ taken) taken

theorem select_sublist (transitions : List TransitionId) :
    (select needs taken transitions).Sublist transitions := by
  induction transitions generalizing taken with
  | nil => exact .slnil
  | cons transition transitions ih =>
    unfold select
    split
    · exact ih.cons _
    · exact ih.cons_cons _

/-- Selecting from two lists in a row. -/
theorem select_append (first second : List TransitionId) :
    select needs taken (first ++ second) =
      select needs taken first ++
        select needs (takenAfter needs taken (select needs taken first)) second := by
  induction first generalizing taken with
  | nil => rfl
  | cons transition first ih =>
    simp only [List.cons_append, select]
    split
    · exact ih
    · rw [ih]
      rfl

/-- A selected instance needs none of the places that were taken before. -/
theorem not_mem_of_mem_select {transitions : List TransitionId} {transition : TransitionId}
    (selected : transition ∈ select needs taken transitions) :
    ∀ place ∈ needs transition, place ∉ taken := by
  induction transitions generalizing taken with
  | nil => simp [select] at selected
  | cons first transitions ih =>
    unfold select at selected
    split at selected
    · exact ih selected
    · rename_i free
      rcases List.mem_cons.1 selected with rfl | later
      · simpa using free
      · exact fun place needed held => ih later place needed (List.mem_append_right _ held)

/-- **Selected instances need different places.** -/
theorem select_pairwise (transitions : List TransitionId) :
    (select needs taken transitions).Pairwise fun first second =>
      ∀ place ∈ needs first, place ∉ needs second := by
  induction transitions generalizing taken with
  | nil => exact .nil
  | cons transition transitions ih =>
    unfold select
    split
    · exact ih
    · refine .cons (fun later selected place needed shared => ?_) ih
      exact not_mem_of_mem_select selected place shared (List.mem_append_left _ needed)

theorem select_disjoint {transitions : List TransitionId} {first second : TransitionId}
    (firstSelected : first ∈ select needs taken transitions)
    (secondSelected : second ∈ select needs taken transitions) (different : first ≠ second) :
    ∀ place ∈ needs first, place ∉ needs second := by
  have symmetric : Std.Symm fun first second : TransitionId =>
      ∀ place ∈ needs first, place ∉ needs second :=
    ⟨fun _ _ apart place bySecond byFirst => apart place byFirst bySecond⟩
  exact (select_pairwise transitions).forall firstSelected secondSelected different

/-- **What is not selected needs a place that is taken**, be it from the start or by a
selected instance that stands before it. -/
theorem exists_before_of_not_mem_select {transitions : List TransitionId}
    {transition : TransitionId} (listed : transition ∈ transitions)
    (passed : transition ∉ select needs taken transitions) :
    ∃ place ∈ needs transition, place ∈ taken ∨
      ∃ accepted ∈ select needs taken transitions, place ∈ needs accepted ∧
        [accepted, transition].Sublist transitions := by
  induction transitions generalizing taken with
  | nil => simp at listed
  | cons first transitions ih =>
    unfold select at passed ⊢
    split at passed
    · rename_i conflict
      rw [if_pos conflict]
      rcases List.mem_cons.1 listed with rfl | later
      · obtain ⟨place, needed, held⟩ := List.any_eq_true.1 conflict
        exact ⟨place, needed, .inl (by simpa using held)⟩
      · obtain ⟨place, needed, held | ⟨accepted, selected, shared, before⟩⟩ := ih later passed
        · exact ⟨place, needed, .inl held⟩
        · exact ⟨place, needed, .inr ⟨accepted, selected, shared, before.cons first⟩⟩
    · rename_i free
      rw [if_neg free]
      obtain ⟨other, passedLater⟩ := not_or.1 (mt List.mem_cons.2 passed)
      have later := (List.mem_cons.1 listed).resolve_left other
      obtain ⟨place, needed, held | ⟨accepted, selected, shared, before⟩⟩ := ih later passedLater
      · rcases List.mem_append.1 held with byFirst | earlier
        · exact ⟨place, needed, .inr ⟨first, List.mem_cons_self, byFirst,
            (List.singleton_sublist.2 later).cons_cons first⟩⟩
        · exact ⟨place, needed, .inl earlier⟩
      · exact ⟨place, needed, .inr ⟨accepted, List.mem_cons_of_mem _ selected, shared,
          before.cons first⟩⟩

/-- What is not selected needs a place that is taken, whatever stands before it. -/
theorem exists_taken_of_not_mem_select {transitions : List TransitionId}
    {transition : TransitionId} (listed : transition ∈ transitions)
    (passed : transition ∉ select needs taken transitions) :
    ∃ place ∈ needs transition, place ∈ taken ∨
      ∃ accepted ∈ select needs taken transitions, place ∈ needs accepted := by
  obtain ⟨place, needed, held | ⟨accepted, selected, shared, -⟩⟩ :=
    exists_before_of_not_mem_select listed passed
  · exact ⟨place, needed, .inl held⟩
  · exact ⟨place, needed, .inr ⟨accepted, selected, shared⟩⟩

/-- With no place taken the first instance is selected. -/
theorem select_ne_nil {transitions : List TransitionId} (nonempty : transitions ≠ []) :
    select needs [] transitions ≠ [] := by
  cases transitions with
  | nil => exact absurd rfl nonempty
  | cons transition transitions => simp [select]

/-! ## Selection bus by bus -/

/-- The buses with their selected instances; a bus without any is left out. -/
def selectBuses (needs : TransitionId → List PlaceId) : (taken : List PlaceId) →
    List EnabledBus → List EnabledBus
  | _, [] => []
  | taken, bus :: buses =>
    let selected := select needs taken bus.instances
    let rest := selectBuses needs (takenAfter needs taken selected) buses
    if selected.isEmpty then rest else { bus with instances := selected } :: rest

/-- Selecting bus by bus is selecting from the instances of all buses in a row. -/
theorem flatMap_selectBuses (buses : List EnabledBus) :
    (selectBuses needs taken buses).flatMap EnabledBus.instances =
      select needs taken (buses.flatMap EnabledBus.instances) := by
  induction buses generalizing taken with
  | nil => rfl
  | cons bus buses ih =>
    rw [List.flatMap_cons, select_append, ← ih]
    simp only [selectBuses]
    split
    · rename_i none
      rw [List.isEmpty_iff.1 none, List.nil_append]
    · rw [List.flatMap_cons]

theorem labels_selectBuses_sublist (buses : List EnabledBus) :
    ((selectBuses needs taken buses).map EnabledBus.label).Sublist
      (buses.map EnabledBus.label) := by
  induction buses generalizing taken with
  | nil => exact .slnil
  | cons bus buses ih =>
    simp only [selectBuses]
    split
    · exact ih.cons _
    · exact ih.cons_cons _

/-- A bus of a selection is one of the buses, cut down to some of its instances. -/
theorem exists_of_mem_selectBuses {buses : List EnabledBus} {bus : EnabledBus}
    (selected : bus ∈ selectBuses needs taken buses) :
    bus.instances ≠ [] ∧
      ∃ whole ∈ buses, whole.label = bus.label ∧ bus.instances.Sublist whole.instances := by
  induction buses generalizing taken with
  | nil => simp [selectBuses] at selected
  | cons first buses ih =>
    simp only [selectBuses] at selected
    split at selected
    · obtain ⟨nonempty, whole, member, cut⟩ := ih selected
      exact ⟨nonempty, whole, List.mem_cons_of_mem _ member, cut⟩
    · rename_i nonempty
      rcases List.mem_cons.1 selected with rfl | later
      · exact ⟨by simpa using nonempty, first, List.mem_cons_self, rfl, select_sublist _⟩
      · obtain ⟨nonempty, whole, member, cut⟩ := ih later
        exact ⟨nonempty, whole, List.mem_cons_of_mem _ member, cut⟩

end Selection

/-! ## Arbitration selects -/

namespace Engine

/-- The places that an instance takes when it is accepted. -/
def needs (engine : Engine) (transition : TransitionId) : List PlaceId :=
  (engine.preset transition).consumed

variable (engine : Engine)

variable {label : String} {arbitration : Arbitration} {transition : TransitionId}

theorem consider_of_conflict
    (conflict : (engine.needs transition).any arbitration.reserved.contains = true) :
    engine.consider label arbitration transition =
      { arbitration with displaced := arbitration.displaced ++ [(transition, label)] } :=
  if_pos conflict

theorem consider_of_free
    (free : ¬(engine.needs transition).any arbitration.reserved.contains = true) :
    engine.consider label arbitration transition =
      { arbitration with
        step := { arbitration.step with
          instances := arbitration.step.instances ++ [transition] }
        reserved := engine.needs transition ++ arbitration.reserved } :=
  if_neg free

/-- The inner loop selects from the instances of a bus. -/
theorem foldl_consider (label : String) (transitions : List TransitionId)
    (arbitration : Arbitration) :
    (transitions.foldl (engine.consider label) arbitration).step =
        { arbitration.step with
          instances := arbitration.step.instances ++
            select engine.needs arbitration.reserved transitions } ∧
      (transitions.foldl (engine.consider label) arbitration).reserved =
        takenAfter engine.needs arbitration.reserved
          (select engine.needs arbitration.reserved transitions) := by
  induction transitions generalizing arbitration with
  | nil => simp [select, takenAfter]
  | cons transition transitions ih =>
    rw [List.foldl_cons, select]
    by_cases conflict : (engine.needs transition).any arbitration.reserved.contains = true
    · rw [engine.consider_of_conflict conflict, if_pos conflict]
      exact ih _
    · rw [engine.consider_of_free conflict, if_neg conflict]
      rw [(ih _).1, (ih _).2, List.append_assoc]
      exact ⟨rfl, rfl⟩

/-- What considering a bus does to the choice made so far. -/
theorem considerBus_step (arbitration : Arbitration) (bus : EnabledBus) :
    (engine.considerBus arbitration bus).step.labels = arbitration.step.labels ++
        (if (select engine.needs arbitration.reserved bus.instances).isEmpty then []
          else [bus.label]) ∧
      (engine.considerBus arbitration bus).step.instances = arbitration.step.instances ++
          select engine.needs arbitration.reserved bus.instances ∧
        (engine.considerBus arbitration bus).reserved =
          takenAfter engine.needs arbitration.reserved
            (select engine.needs arbitration.reserved bus.instances) := by
  obtain ⟨step, reserved⟩ := engine.foldl_consider bus.label bus.instances arbitration
  unfold considerBus
  cases selected : select engine.needs arbitration.reserved bus.instances with
  | nil => simp [step, reserved, selected]
  | cons transition transitions => simp [step, reserved, selected]

/-- The outer loop selects bus by bus. -/
theorem foldl_considerBus (buses : List EnabledBus) (arbitration : Arbitration) :
    (buses.foldl engine.considerBus arbitration).step =
      { labels := arbitration.step.labels ++
          (selectBuses engine.needs arbitration.reserved buses).map EnabledBus.label
        instances := arbitration.step.instances ++
          (selectBuses engine.needs arbitration.reserved buses).flatMap EnabledBus.instances } := by
  induction buses generalizing arbitration with
  | nil => simp [selectBuses]
  | cons bus buses ih =>
    obtain ⟨labels, instances, reserved⟩ := engine.considerBus_step arbitration bus
    rw [List.foldl_cons, ih, labels, instances, reserved]
    simp only [selectBuses]
    split
    · rename_i none
      simp [List.isEmpty_iff.1 none]
    · simp

/-- **An arbitration returns the selected instances and the labels of their buses.** -/
theorem arbitrate_step (buses : List EnabledBus) :
    (engine.arbitrate buses).step =
      { labels := (selectBuses engine.needs [] buses).map EnabledBus.label
        instances := (selectBuses engine.needs [] buses).flatMap EnabledBus.instances } := by
  simp [arbitrate, foldl_considerBus]

end Engine

end EventNet
