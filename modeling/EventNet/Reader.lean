/-!
# Readers

A reader takes a first part off a text, says what it read, and gives what is left. It
finds nothing if the text does not start with what it looks for.

Readers are run again and again until they find nothing. That ends because a part
counts only if it is not empty.
-/

set_option autoImplicit false

namespace EventNet

/-- A way of reading a first part of a text, which gives what it read and what is left. -/
abbrev Reader (α : Type) := List Char → Option (α × List Char)

namespace Reader

variable {α : Type}

/-- Reading takes at least one character. -/
def Shortens (reader : Reader α) : Prop :=
  ∀ text value rest, reader text = some (value, rest) → rest.length < text.length

/-- Reads with the first reader, or with the second if the first finds nothing. -/
def orElse (first second : Reader α) : Reader α := fun text =>
  match first text with
  | some found => some found
  | none => second text

theorem Shortens.orElse {first second : Reader α} (left : first.Shortens)
    (right : second.Shortens) : (first.orElse second).Shortens := by
  intro text value rest found
  unfold Reader.orElse at found
  split at found
  · rename_i read
    exact left _ _ _ (read.trans found)
  · exact right _ _ _ found

/-- Reads as many items as there are, one after another. -/
def many (item : Reader α) (text : List Char) : List α × List Char :=
  match item text with
  | none => ([], text)
  | some (value, rest) =>
    if rest.length < text.length then
      let more := many item rest
      (value :: more.1, more.2)
    else ([], text)
  termination_by text.length

theorem many_of_none {item : Reader α} {text : List Char} (nothing : item text = none) :
    many item text = ([], text) := by
  rw [many, nothing]

theorem many_of_some {item : Reader α} {text rest : List Char} {value : α}
    (read : item text = some (value, rest)) (shorter : rest.length < text.length) :
    many item text = (value :: (many item rest).1, (many item rest).2) := by
  rw [many, read]
  exact if_pos shorter

theorem length_many (item : Reader α) (text : List Char) :
    (many item text).2.length ≤ text.length := by
  fun_induction many item text with
  | case1 => exact Nat.le_refl _
  | case2 text value rest _ shorter more ih => exact Nat.le_of_lt (Nat.lt_of_le_of_lt ih shorter)
  | case3 => exact Nat.le_refl _

end Reader

end EventNet
