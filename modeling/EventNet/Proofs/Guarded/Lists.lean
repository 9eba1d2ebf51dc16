/-!
# Going through lists with look-ups that may fail

A search, a translation or a fold goes through a list and looks something up for every
item. Where each look-up succeeds, the whole succeeds with the outcome that it has when
nothing can fail. For folds that keep more than their outcome, the two are tied by a
relation that every step preserves (`foldlM_simulates`).
-/

set_option autoImplicit false

namespace EventNet.Guarded

variable {α β γ : Type}

theorem mapM_eq_some {find : α → Option β} {value : α → β} {items : List α}
    (found : ∀ item ∈ items, find item = some (value item)) :
    items.mapM find = some (items.map value) := by
  induction items with
  | nil => rfl
  | cons item items ih =>
    obtain ⟨first, others⟩ := List.forall_mem_cons.1 found
    simp [List.mapM_cons, first, ih others]

/-- What has been written item by item is read item by item. -/
theorem mapM_map_eq_some {write : α → β} {find : β → Option γ} {value : α → γ} {items : List α}
    (found : ∀ item ∈ items, find (write item) = some (value item)) :
    (items.map write).mapM find = some (items.map value) := by
  rw [List.mapM_map]
  exact mapM_eq_some found

theorem anyM_eq_some {find : α → Option Bool} {value : α → Bool} {items : List α}
    (found : ∀ item ∈ items, find item = some (value item)) :
    items.anyM find = some (items.any value) := by
  induction items with
  | nil => rfl
  | cons item items ih =>
    obtain ⟨first, others⟩ := List.forall_mem_cons.1 found
    cases holds : value item <;> simp [List.anyM, first, holds, ih others]

theorem allM_eq_some {find : α → Option Bool} {value : α → Bool} {items : List α}
    (found : ∀ item ∈ items, find item = some (value item)) :
    items.allM find = some (items.all value) := by
  induction items with
  | nil => rfl
  | cons item items ih =>
    obtain ⟨first, others⟩ := List.forall_mem_cons.1 found
    cases holds : value item <;> simp [List.allM, first, holds, ih others]

theorem findM?_eq_some {find : α → Option Bool} {value : α → Bool} {items : List α}
    (found : ∀ item ∈ items, find item = some (value item)) :
    items.findM? find = some (items.find? value) := by
  induction items with
  | nil => rfl
  | cons item items ih =>
    obtain ⟨first, others⟩ := List.forall_mem_cons.1 found
    cases holds : value item <;> simp [List.findM?, first, holds, ih others]

theorem filterM_eq_some {find : α → Option Bool} {value : α → Bool} {items : List α}
    (found : ∀ item ∈ items, find item = some (value item)) :
    items.filterM find = some (items.filter value) := by
  -- the items kept so far are collected in reverse
  have collected : ∀ kept : List α,
      items.filterAuxM find kept = some ((items.filter value).reverse ++ kept) := by
    induction items with
    | nil => exact fun kept => rfl
    | cons item items ih =>
      obtain ⟨first, others⟩ := List.forall_mem_cons.1 found
      intro kept
      cases holds : value item <;> simp [List.filterAuxM, first, holds, ih others]
  simp [List.filterM, collected]

/-- A fold in which every step succeeds follows the fold that cannot fail. -/
theorem foldlM_simulates {guarded : γ → α → Option γ} {step : β → α → β}
    {tied : β → γ → Prop} {items : List α} {plain : β} {state : γ}
    (step_tied : ∀ plain state, tied plain state → ∀ item ∈ items,
      ∃ next, guarded state item = some next ∧ tied (step plain item) next)
    (start : tied plain state) :
    ∃ last, items.foldlM guarded state = some last ∧ tied (items.foldl step plain) last := by
  induction items generalizing plain state with
  | nil => exact ⟨state, rfl, start⟩
  | cons item items ih =>
    obtain ⟨next, made, nextTied⟩ := step_tied plain state start item List.mem_cons_self
    obtain ⟨last, rest, lastTied⟩ := ih
      (fun plain state tied other later =>
        step_tied plain state tied other (List.mem_cons_of_mem _ later)) nextTied
    exact ⟨last, by simp [List.foldlM_cons, made, rest], lastTied⟩

end EventNet.Guarded
