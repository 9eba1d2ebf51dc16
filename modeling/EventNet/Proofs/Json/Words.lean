import EventNet.Json.Basic
import EventNet.Json.Token
import Mathlib.Data.List.Forall2

/-!
# Written texts cut into words

The writer spells strings and numbers character by character, and the reader cuts the
text into words again. Here it is shown for every kind of word the writer makes that the
reader gets it back: a quoted text is one word with this text, whatever characters it
has (`tokens_quoted`), the digits of a natural number are one word with these digits
(`tokens_natDigits`), and the layout between words leaves no trace.

A string says itself where it ends. A number does not: its word ends where no more
digits, fraction or exponent come, so the fact about numbers says what stands behind.
-/

set_option autoImplicit false

namespace EventNet.Json

variable {rest : List Char}

/-! ## Layout and fixed words -/

theorem tokens_of_isSpace {c : Char} (space : isSpace c = true) :
    tokens (c :: rest) = tokens rest := by
  rw [tokens, if_pos space]

theorem tokens_of_word {c : Char} {word : Token} {after : List Char} (inked : isSpace c = false)
    (read : tokenFrom c rest = (word, after)) : tokens (c :: rest) = word :: tokens after := by
  rw [tokens, inked, if_neg Bool.false_ne_true, read]

theorem tokens_indentation (count : Nat) :
    tokens (List.replicate count ' ' ++ rest) = tokens rest := by
  induction count with
  | zero => rfl
  | succ count ih =>
    rw [List.replicate_succ, List.cons_append, tokens_of_isSpace rfl, ih]

@[simp] theorem tokens_newLine (depth : Nat) : tokens (newLine depth ++ rest) = tokens rest := by
  rw [newLine, List.cons_append, tokens_of_isSpace rfl, tokens_indentation]

/-! ## Strings -/

/-- A part of a string stands for a character: it is that character, or gives its number. -/
inductive Piece.Spells : Piece → Char → Prop
  | char (c : Char) : Spells (.char c) c
  | unit (c : Char) (single : c.toNat < 0xD800) : Spells (.unit c.toNat) c

/-- The number of a control character is read back from its two digits. -/
theorem hexNumber?_control :
    ∀ code < 0x20, Text.hexNumber? ['0', '0', hexDigit (code / 16), hexDigit (code % 16)] =
      some code := by
  decide

/-- A character that needs no escape is read as it stands. -/
theorem scanString_printed {c : Char} (noQuote : c ≠ '"') (noBackslash : c ≠ '\\')
    (printed : ¬c.toNat < 0x20) (rest : List Char) :
    scanString (c :: rest) = (.char c :: (scanString rest).1, (scanString rest).2) := by
  rw [scanString.eq_def]
  split
  case h_1 empty => nomatch empty
  case h_2 same => exact absurd (List.cons.inj same).1 noQuote
  case h_3 same | h_4 same | h_5 same | h_6 same =>
    exact absurd (List.cons.inj same).1 noBackslash
  case h_7 same =>
    obtain ⟨rfl, rfl⟩ := List.cons.inj same
    rw [if_neg printed]

/-- A written character is read as one part of a string. -/
theorem scanString_escaped (c : Char) :
    ∃ piece : Piece, piece.Spells c ∧ ∀ rest : List Char,
      scanString (escaped c ++ rest) = (piece :: (scanString rest).1, (scanString rest).2) := by
  unfold escaped
  split
  case isTrue here => subst here; exact ⟨_, .char _, fun _ => rfl⟩
  case isFalse noQuote =>
  split
  case isTrue here => subst here; exact ⟨_, .char _, fun _ => rfl⟩
  case isFalse noBackslash =>
  -- the five characters with an escape of their own
  iterate 5
    split
    case' isTrue here => subst here; exact ⟨_, .char _, fun _ => rfl⟩
  split
  case isTrue control =>
    refine ⟨.unit c.toNat, .unit c (by omega), fun rest => ?_⟩
    simp only [List.cons_append, List.nil_append]
    rw [scanString, hexNumber?_control _ control]
  case isFalse printed =>
    exact ⟨.char c, .char c, scanString_printed noQuote noBackslash printed⟩

theorem spell?_char (closed : Bool) (c : Char) (pieces : List Piece) :
    spell? closed (.char c :: pieces) = (spell? closed pieces).map (c :: ·) := by
  rw [spell?]

/-- A unit below those that come in pairs stands for the character with its number. -/
theorem spell?_unit (closed : Bool) {code : Nat} (single : code < 0xD800) (pieces : List Piece) :
    spell? closed (.unit code :: pieces) =
      (spell? closed pieces).map (Char.ofNat code :: ·) := by
  have notHigh : isHighUnit code = false := by simp [isHighUnit]; omega
  have notLow : isLowUnit code = false := by simp [isLowUnit]; omega
  rcases pieces with _ | ⟨_ | _, _⟩ <;>
    simp only [spell?, notHigh, notLow, Bool.false_eq_true, if_false]

/-- The parts of a string that stand for characters spell these. -/
theorem spell?_eq_some {pieces : List Piece} {text : List Char}
    (spelled : List.Forall₂ Piece.Spells pieces text) (closed : Bool) :
    spell? closed pieces = some text := by
  induction spelled with
  | nil => rw [spell?]
  | cons first _ ih =>
    cases first with
    | char => rw [spell?_char, ih, Option.map_some]
    | unit _ single => rw [spell?_unit closed single, ih, Option.map_some, Char.ofNat_toNat]

theorem scanString_flatMap (text : List Char) :
    ∃ pieces : List Piece, List.Forall₂ Piece.Spells pieces text ∧ ∀ rest : List Char,
      scanString (text.flatMap escaped ++ '"' :: rest) = (pieces, .ok rest) := by
  induction text with
  | nil => exact ⟨[], .nil, fun _ => by rw [List.flatMap_nil, List.nil_append, scanString]⟩
  | cons c text ih =>
    obtain ⟨piece, first, read⟩ := scanString_escaped c
    obtain ⟨pieces, more, readMore⟩ := ih
    refine ⟨piece :: pieces, .cons first more, fun rest => ?_⟩
    rw [List.flatMap_cons, List.append_assoc, read, readMore]

/-- **A quoted text is read as one word with this text.** -/
theorem tokens_quoted (text : String) :
    tokens (quoted text ++ rest) = .string (some text) :: tokens rest := by
  obtain ⟨pieces, spelled, read⟩ := scanString_flatMap text.toList
  have word : stringToken (text.toList.flatMap escaped ++ '"' :: rest) =
      (.string (some text), rest) := by
    simp only [stringToken, read, spell?_eq_some spelled, Option.map_some, String.ofList_toList]
  rw [quoted, List.cons_append, List.cons_append, List.append_assoc, List.singleton_append]
  exact tokens_of_word rfl word

/-! ## Natural numbers -/

/-- The literal of a natural number. -/
def NumberLiteral.ofNat (number : Nat) : NumberLiteral :=
  { negative := false, whole := Nat.toDigits 10 number }

/-- What stands behind a number in a written text: nothing, a comma or a line end. -/
def EndsNumber (rest : List Char) : Prop :=
  ∀ (c : Char) (after : List Char), rest = c :: after → c = ',' ∨ c = '\n'

theorem endsNumber_nil : EndsNumber [] := nofun

theorem endsNumber_comma : EndsNumber (',' :: rest) := by
  rintro c after ⟨⟩
  exact .inl rfl

theorem endsNumber_newLine (depth : Nat) : EndsNumber (newLine depth ++ rest) := by
  rintro c after ⟨⟩
  exact .inr rfl

/-- No digit, fraction or exponent stands behind a number. -/
theorem EndsNumber.digits_append {number : List Char} (ends : EndsNumber rest)
    (each : ∀ c ∈ number, c.isDigit = true) :
    digits (number ++ rest) = number ∧ afterDigits (number ++ rest) = rest := by
  rw [digits, afterDigits, List.takeWhile_append_of_pos each, List.dropWhile_append_of_pos each]
  cases rest with
  | nil => simp
  | cons c after =>
    have other : c.isDigit = false := by
      rcases ends c after rfl with rfl | rfl <;> rfl
    simp [other]

theorem EndsNumber.numberEnd_eq (ends : EndsNumber rest) (negative : Bool) (whole : List Char) :
    numberEnd negative whole rest = .ok ({ negative, whole }, rest) := by
  cases rest with
  | nil => rfl
  | cons c after => rcases ends c after rfl with rfl | rfl <;> rfl

/-- Only zero starts with the digit zero. -/
theorem eq_zero_of_head?_toDigits {number : Nat}
    (zero : (Nat.toDigits 10 number).head? = some '0') : number = 0 := by
  induction number using Nat.strongRecOn with
  | ind number ih =>
    by_cases small : number < 10
    · rw [Nat.toDigits_of_lt_base small, List.head?_cons, Option.some.injEq] at zero
      rw [← Nat.toNat_digitChar_sub_48_of_lt_ten small, zero]
      rfl
    · rw [Nat.toDigits_of_base_le (by decide) (by omega),
        List.head?_append_of_ne_nil _ Nat.toDigits_ne_nil] at zero
      have := ih (number / 10) (by omega) zero
      omega

theorem tokenFrom_digit {c : Char} (digit : c.isDigit = true) :
    tokenFrom c rest = numberToken false (c :: rest) := by
  unfold tokenFrom
  split
  all_goals first
    | exact absurd digit (by decide)
    | exact if_pos digit

/-- Digits without a superfluous zero in front are a number. -/
theorem numberToken_digits {c : Char} {more : List Char} (ends : EndsNumber rest)
    (each : ∀ d ∈ c :: more, d.isDigit = true) (short : c = '0' → more = []) :
    numberToken false (c :: more ++ rest) =
      (.number { negative := false, whole := c :: more }, rest) := by
  obtain ⟨taken, left⟩ := ends.digits_append each
  rw [numberToken, taken, left]
  split
  case h_1 none => nomatch none
  case h_2 zero =>
    obtain ⟨rfl, rfl⟩ := List.cons.inj zero
    exact nomatch short rfl
  case h_3 => rw [ends.numberEnd_eq]

/-- **The digits of a natural number are read as one word with these digits.** -/
theorem tokens_natDigits (number : Nat) (ends : EndsNumber rest) :
    tokens (Nat.toDigits 10 number ++ rest) = .number (.ofNat number) :: tokens rest := by
  have each : ∀ d ∈ Nat.toDigits 10 number, d.isDigit = true := fun _ listed =>
    Nat.isDigit_of_mem_toDigits (by decide) (by decide) listed
  rw [NumberLiteral.ofNat]
  cases written : Nat.toDigits 10 number with
  | nil => exact absurd written Nat.toDigits_ne_nil
  | cons c more =>
    rw [written] at each
    have digit : c.isDigit = true := each c List.mem_cons_self
    have short : c = '0' → more = [] := by
      rintro rfl
      obtain rfl : number = 0 := eq_zero_of_head?_toDigits (by rw [written, List.head?_cons])
      exact (List.cons.inj written).2.symm
    have inked : isSpace c = false := by
      cases space : isSpace c with
      | false => rfl
      | true =>
        simp only [isSpace, Bool.or_eq_true, beq_iff_eq] at space
        rcases space with ((rfl | rfl) | rfl) | rfl <;> nomatch digit
    rw [List.cons_append]
    refine tokens_of_word inked ?_
    rw [tokenFrom_digit digit]
    exact numberToken_digits ends each short

end EventNet.Json
