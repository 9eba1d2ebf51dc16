import EventNet.Proofs.Notation.Regions
import Mathlib.Data.List.Induction

/-!
# Places by numbers of bytes

The place at which a region starts is kept while a text is read (`Position.upTo`). It can also be
found in the text as a whole: what is left to read takes up so many bytes, and the text in front
of it is searched for the ends of lines (`placeOf?`). That needs the text to be cut between two
characters, which is not so at every byte.

What is left of a text starts between two characters (`isValid_offsetOf`), so the place is found,
and it is the one that has been kept (`placeOf?_append`, `Position.after_eq`).
-/

set_option autoImplicit false

namespace EventNet.Notation

/-- The byte of a text at which its last part starts. -/
def offsetOf (source : String) (rest : List Char) : Nat :=
  source.utf8ByteSize - (String.ofList rest).utf8ByteSize

/-- The text in front of a byte, unless this byte lies inside a character. -/
def beforeByte? (source : String) (offset : Nat) : Option String :=
  if valid : (⟨offset⟩ : String.Pos.Raw).IsValid source then
    some (source.sliceTo ⟨⟨offset⟩, valid⟩).copy
  else none

/-- The last line of a text. -/
def lastLine (text : List Char) : List Char := (text.reverse.takeWhile fun c => c != '\n').reverse

/-- The place behind a text: lines are counted by their ends, columns in the last line. -/
def placeBehind (text : List Char) : Position :=
  { line := text.count '\n' + 1, column := (lastLine text).length + 1 }

/-- The place at which the last part of a text starts, if the text can be cut there. -/
def placeOf? (source : String) (rest : List Char) : Option Position :=
  (beforeByte? source (offsetOf source rest)).map fun before => placeBehind before.toList

theorem placeBehind_concat (text : List Char) (c : Char) :
    placeBehind (text ++ [c]) = (placeBehind text).next c := by
  by_cases feed : c = '\n'
  · subst feed
    simp [placeBehind, lastLine, Position.next]
  · simp [placeBehind, lastLine, Position.next, feed]

/-- **The place that is kept is the place behind the text.** -/
theorem Position.after_eq (text : List Char) : ({} : Position).after text = placeBehind text := by
  induction text using List.reverseRecOn with
  | nil => rfl
  | append_singleton text c ih =>
    rw [Position.after_append, ih, placeBehind_concat]
    rfl

section Cut

variable {source : String} {before rest : List Char}

theorem eq_ofList_append (whole : source.toList = before ++ rest) :
    source = String.ofList before ++ String.ofList rest := by
  rw [← String.ofList_append, ← whole, String.ofList_toList]

theorem offsetOf_append (whole : source.toList = before ++ rest) :
    offsetOf source rest = (String.ofList before).utf8ByteSize := by
  rw [offsetOf, eq_ofList_append whole, String.utf8ByteSize_append, Nat.add_sub_cancel]

/-- **A text can be cut in front of its last part**, whatever characters it has. -/
theorem isValid_offsetOf (whole : source.toList = before ++ rest) :
    (⟨offsetOf source rest⟩ : String.Pos.Raw).IsValid source := by
  rw [String.Pos.Raw.isValid_iff_exists_append]
  refine ⟨String.ofList before, String.ofList rest, eq_ofList_append whole, ?_⟩
  exact congrArg String.Pos.Raw.mk (offsetOf_append whole)

theorem beforeByte?_append (whole : source.toList = before ++ rest) :
    beforeByte? source (offsetOf source rest) = some (String.ofList before) := by
  have valid := isValid_offsetOf whole
  rw [beforeByte?, dif_pos valid]
  generalize same : (⟨⟨offsetOf source rest⟩, valid⟩ : source.Pos) = cut
  have splits : cut.Splits (String.ofList before) (String.ofList rest) := by
    refine ⟨eq_ofList_append whole, ?_⟩
    rw [← same]
    exact congrArg String.Pos.Raw.mk (offsetOf_append whole)
  rw [cut.splits.eq_left splits]

/-- **The place of the last part of a text is the place behind the text in front of it.** -/
theorem placeOf?_append (whole : source.toList = before ++ rest) :
    placeOf? source rest = some (placeBehind before) := by
  rw [placeOf?, beforeByte?_append whole, Option.map_some, String.toList_ofList]

end Cut

end EventNet.Notation
