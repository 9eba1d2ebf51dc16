import EventNet.Firing.Step

/-!
# The order in which buses are considered

A step considers the enabled buses in an order that depends on a random source and on a
preference. Both only rearrange: a shuffle is made of swaps, whatever the numbers drawn,
and preferring a bus moves it to the front.
-/

set_option autoImplicit false

namespace EventNet

open EventNet.Random (WordSource)

namespace Random

variable {σ α : Type}

theorem swapIfInBounds_perm (items : Array α) (first second : Nat) :
    (items.swapIfInBounds first second).toList.Perm items.toList := by
  unfold Array.swapIfInBounds
  split
  · split
    · exact (Array.swap_perm _ _).toList
    · exact .refl _
  · exact .refl _

theorem shuffleFrom_perm [WordSource σ] (toDo : Nat) (items : Array α) (done : Nat)
    (chunk : Chunk) (source : σ) :
    (shuffleFrom items done chunk source toDo).1.toList.Perm items.toList := by
  induction toDo generalizing items done chunk source with
  | zero => exact .refl _
  | succ toDo ih => exact (ih _ _ _ _).trans (swapIfInBounds_perm _ _ _)

/-- **A shuffled list is a permutation of the list**, for every source of words. -/
theorem shuffle_perm [WordSource σ] (items : List α) (source : σ) :
    (shuffle items source).1.Perm items :=
  shuffleFrom_perm items.length items.toArray 0 {} source

end Random

/-- The first element with a property, in front of the list without it. -/
theorem cons_eraseP_perm {α : Type} {p : α → Bool} {first : α} {items : List α}
    (found : items.find? p = some first) : (first :: items.eraseP p).Perm items := by
  obtain ⟨holds, before, after, rfl, others⟩ := List.find?_eq_some_iff_append.1 found
  have none : ∀ other ∈ before, ¬p other = true := by
    simpa using others
  rw [List.eraseP_append_right _ none, List.eraseP_cons_of_pos holds]
  exact List.perm_middle.symm

/-- Preferring a bus rearranges the buses. -/
theorem preferring_perm (preferred : Option String) (buses : List EnabledBus) :
    (preferring preferred buses).Perm buses := by
  unfold preferring
  split
  · exact .refl _
  · split
    · exact .refl _
    · rename_i found
      exact cons_eraseP_perm found

section Considered

variable {σ : Type} [WordSource σ] (preferred : Option String) (buses : List EnabledBus)
variable (source : σ)

/-- **A step considers the enabled buses, each of them once**, in some order. -/
theorem preferring_shuffle_perm :
    (preferring preferred (Random.shuffle buses source).1).Perm buses :=
  (preferring_perm preferred _).trans (Random.shuffle_perm buses source)

theorem preferring_shuffle_ne_nil {buses : List EnabledBus} (nonempty : ¬buses.isEmpty = true) :
    preferring preferred (Random.shuffle buses source).1 ≠ [] := by
  intro empty
  have rearranged := preferring_shuffle_perm preferred buses source
  rw [empty] at rearranged
  exact nonempty (List.isEmpty_iff.2 rearranged.nil_eq.symm)

end Considered

end EventNet
