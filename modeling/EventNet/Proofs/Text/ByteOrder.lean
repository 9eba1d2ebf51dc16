import Mathlib.Data.List.Lex
import Mathlib.Data.String.Basic

/-!
# Texts in the order of their bytes

Texts are compared by their characters, and characters by their code points. Who compares the
bytes of UTF-8 instead finds the same order: the encodings of two characters differ before
either of them ends, and where they differ first the greater character has the greater byte
(`utf8EncodeChar_append_lt`). So the bytes of texts are in order exactly if the texts are
(`bytes_lt_iff`).
-/

set_option autoImplicit false

namespace EventNet.Text

/-- The bytes of a text in UTF-8. -/
def bytes (text : String) : List UInt8 := text.toUTF8.data.toList

theorem bytes_eq_flatMap (text : String) :
    bytes text = text.toList.flatMap String.utf8EncodeChar := by
  rw [bytes, String.toUTF8_eq_toByteArray, ← String.utf8Encode_toList]
  exact List.toList_data_toByteArray

/-- **The greater character has the greater encoding**, whatever follows the two. -/
theorem utf8EncodeChar_append_lt {first second : Char} (less : first < second)
    (rest others : List UInt8) :
    String.utf8EncodeChar first ++ rest < String.utf8EncodeChar second ++ others := by
  have values : first.val.toNat < second.val.toNat := less
  have inside : second.val.toNat < 0x110000 :=
    second.valid.elim (fun below => Nat.lt_trans below (by decide)) And.right
  -- a code point by its places to the base 64
  have third : ∀ value : Nat, value / 4096 = value / 64 / 64 := by omega
  have fourth : ∀ value : Nat, value / 262144 = value / 64 / 64 / 64 := by omega
  fun_cases String.utf8EncodeChar first <;> fun_cases String.utf8EncodeChar second <;>
    simp only [List.cons_append, List.nil_append, List.cons_lt_cons_iff, UInt8.lt_iff_toNat_lt,
      ← UInt8.toNat_inj, UInt8.toNat_ofNat', third, fourth] <;>
    omega

/-- The greater list of characters has the greater encoding. -/
theorem flatMap_utf8EncodeChar_lt {first second : List Char} (less : first < second) :
    first.flatMap String.utf8EncodeChar < second.flatMap String.utf8EncodeChar := by
  induction less with
  | @nil character rest =>
    obtain ⟨byte, bytes, encoded⟩ := List.exists_cons_of_ne_nil
      (@String.utf8EncodeChar_ne_nil character)
    rw [List.flatMap_cons, encoded]
    exact List.nil_lt_cons _ _
  | cons _ ih => exact List.append_left_lt ih
  | rel less => exact utf8EncodeChar_append_lt less _ _

/-- **The bytes of texts are in order exactly if the texts are.** -/
theorem bytes_lt_iff {first second : String} : bytes first < bytes second ↔ first < second := by
  have increasing : ∀ {lower upper : String}, lower < upper → bytes lower < bytes upper := by
    intro lower upper less
    rw [bytes_eq_flatMap, bytes_eq_flatMap]
    exact flatMap_utf8EncodeChar_lt less
  refine ⟨fun less => ?_, increasing⟩
  rcases lt_trichotomy first second with before | rfl | behind
  · exact before
  · exact absurd less (List.lt_irrefl _)
  · exact absurd less (List.lt_asymm (increasing behind))

end EventNet.Text
