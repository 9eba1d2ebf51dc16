import EventNet.Ron.Basic
import EventNet.Ron.Token
import Mathlib.Data.List.TakeWhile

/-!
# Written texts cut into words

The words of a written text come out again when the text is cut. A quoted text is one word
with this text, whatever characters it has (`tokens_quoted`): each of its characters is written
in one of three ways (`Writes`), does not end the string and stands for itself again. The digits
of a number are one word (`tokens_natDigits`), and so is an identifier (`tokens_word`).

A string says itself where it ends. What stands behind a number or an identifier has to end
it, and it is a closing parenthesis there, or a comma or a colon.
-/

set_option autoImplicit false

namespace EventNet.Ron

variable {rest : List Char}

/-! ## Layout and marks -/

theorem tokens_of_skip {c : Char} {after : List Char} (skipped : skipOne? (c :: rest) = some after)
    (shorter : after.length ≤ rest.length) : tokens (c :: rest) = tokens after := by
  rw [tokens, List.isEmpty_cons, if_neg Bool.false_ne_true, skipped]
  exact if_pos (Nat.lt_succ_of_le shorter)

/-- A word that is no layout is taken off the text. -/
theorem tokens_of_word {c : Char} {after : List Char} {word : Token}
    (inked : skipOne? (c :: rest) = none) (read : firstToken (c :: rest) = (word, after))
    (shorter : after.length ≤ rest.length) : tokens (c :: rest) = word :: tokens after := by
  rw [tokens, List.isEmpty_cons, if_neg Bool.false_ne_true, inked, read]
  exact if_pos (Nat.lt_succ_of_le shorter)

theorem tokens_space : tokens (' ' :: rest) = tokens rest :=
  tokens_of_skip rfl (Nat.le_refl _)

theorem tokens_indentation (count : Nat) :
    tokens (List.replicate count ' ' ++ rest) = tokens rest := by
  induction count with
  | zero => rfl
  | succ count ih => rw [List.replicate_succ, List.cons_append, tokens_space, ih]

@[simp] theorem tokens_newLine (depth : Nat) : tokens (newLine depth ++ rest) = tokens rest := by
  rw [newLine, List.cons_append, tokens_of_skip rfl (Nat.le_refl _), tokens_indentation]

/-- A character that is neither blank nor starts a comment is no layout. -/
theorem skipOne?_inked {c : Char} (noComment : c ≠ '/') (inked : isSpace c = false) :
    skipOne? (c :: rest) = none := by
  unfold skipOne?
  split
  case h_3 same =>
    obtain ⟨rfl, rfl⟩ := List.cons.inj same
    rw [inked]
    rfl
  case h_4 => rfl
  all_goals
    rename_i same
    exact absurd (List.cons.inj same).1 noComment

/-- A word of one character. -/
inductive IsMark : Char → Token → Prop
  | openRound : IsMark '(' .openRound
  | closeRound : IsMark ')' .closeRound
  | openSquare : IsMark '[' .openSquare
  | closeSquare : IsMark ']' .closeSquare
  | openCurly : IsMark '{' .openCurly
  | closeCurly : IsMark '}' .closeCurly
  | comma : IsMark ',' .comma
  | colon : IsMark ':' .colon

theorem tokens_mark {c : Char} {word : Token} (mark : IsMark c word) :
    tokens (c :: rest) = word :: tokens rest := by
  cases mark <;> exact tokens_of_word rfl rfl (Nat.le_refl _)

/-! ## Digits -/

/-- A digit below sixteen is read back. -/
theorem hexValue?_digitChar : ∀ digit < 16, Text.hexValue? digit.digitChar = some digit := by
  decide

theorem exists_digit_of_mem {base number : Nat} {c : Char} (large : 1 < base)
    (listed : c ∈ Nat.toDigits base number) : ∃ digit < base, digit.digitChar = c := by
  induction number using Nat.strongRecOn with
  | ind number ih =>
    by_cases small : number < base
    · rw [Nat.toDigits_of_lt_base small, List.mem_singleton] at listed
      exact ⟨number, small, listed.symm⟩
    · rw [Nat.toDigits_of_base_le large (by omega), List.mem_append, List.mem_singleton] at listed
      rcases listed with earlier | rfl
      · exact ih (number / base) (Nat.div_lt_self (by omega) large) earlier
      · exact ⟨number % base, Nat.mod_lt _ (by omega), rfl⟩

/-- A further digit makes the number before it greater by the base and counts itself. -/
theorem numberInBase?_concat {base digit before : Nat} {digits : List Char} (small : base ≤ 16)
    (below : digit < base) (front : Text.numberInBase? base digits = some before) :
    Text.numberInBase? base (digits ++ [digit.digitChar]) = some (before * base + digit) := by
  have value := hexValue?_digitChar digit (by omega)
  rw [Text.numberInBase?] at front ⊢
  rw [List.foldlM_append, front]
  simp [value, below]

/-- **The digits of a number spell it** in every base up to sixteen. -/
theorem numberInBase?_toDigits {base : Nat} (large : 1 < base) (small : base ≤ 16)
    (number : Nat) : Text.numberInBase? base (Nat.toDigits base number) = some number := by
  induction number using Nat.strongRecOn with
  | ind number ih =>
    by_cases single : number < base
    · have only : Text.numberInBase? base ([] ++ [number.digitChar]) = some (0 * base + number) :=
        numberInBase?_concat small single rfl
      rw [Nat.toDigits_of_lt_base single]
      simpa using only
    · have front := ih (number / base) (Nat.div_lt_self (by omega) large)
      rw [Nat.toDigits_of_base_le large (by omega),
        numberInBase?_concat small (Nat.mod_lt _ (by omega)) front, Nat.div_add_mod']

/-- A digit has no meaning of its own in a string, and does not end a code point. -/
theorem harmless_of_mem_toDigits {number : Nat} {c : Char} (listed : c ∈ Nat.toDigits 16 number) :
    (c ≠ '"' ∧ c ≠ '\\') ∧ c ≠ '}' := by
  obtain ⟨digit, below, rfl⟩ := exists_digit_of_mem (by decide) listed
  have all : ∀ digit < 16, (Nat.digitChar digit ≠ '"' ∧ Nat.digitChar digit ≠ '\\') ∧
      Nat.digitChar digit ≠ '}' := by decide
  exact all digit below

/-! ## Strings -/

/-- How a character is written in a string. -/
inductive Writes (c : Char) : List Char → Prop
  /-- As it is. -/
  | plain (noQuote : c ≠ '"') (noBackslash : c ≠ '\\') : Writes c [c]
  /-- By a letter behind a backslash. -/
  | letter {letter : Char} (named : letterEscape? letter = some c) : Writes c ['\\', letter]
  /-- By its code point. -/
  | codePoint : Writes c (Text.byCodePoint c)

/-- Every character is written in one of these ways. -/
theorem writes_escaped (c : Char) : Writes c (Text.escaped true c) := by
  unfold Text.escaped
  -- the characters with a letter of their own
  iterate 4
    split
    case' isTrue here => subst here; exact .letter rfl
  split
  case isTrue here => subst here; exact .letter rfl
  case isFalse noQuote =>
  split
  case isTrue here => subst here; exact .letter rfl
  case isFalse noBackslash =>
  split
  case isTrue here => subst here; exact .letter rfl
  case isFalse =>
  split
  case isTrue => exact .plain noQuote noBackslash
  case isFalse => exact .codePoint

/-- A character that has no meaning of its own in a string is read as it stands. -/
theorem inside?_plain {c : Char} (noQuote : c ≠ '"') (noBackslash : c ≠ '\\') :
    inside? (c :: rest) = (inside? rest).map fun found => (c :: found.1, found.2) := by
  rw [inside?.eq_def]
  split
  case h_1 empty => nomatch empty
  case h_2 same => exact absurd (List.cons.inj same).1 noQuote
  case h_3 same => exact absurd (List.cons.inj same).1 noBackslash
  case h_4 same =>
    obtain ⟨rfl, rfl⟩ := List.cons.inj same
    rfl

theorem inside?_append_plain {text : List Char} (each : ∀ c ∈ text, c ≠ '"' ∧ c ≠ '\\') :
    inside? (text ++ rest) = (inside? rest).map fun found => (text ++ found.1, found.2) := by
  induction text with
  | nil => simp
  | cons c text ih =>
    obtain ⟨here, others⟩ := List.forall_mem_cons.1 each
    rw [List.cons_append, inside?_plain here.1 here.2, ih others, Option.map_map]
    rfl

/-- A written character does not end the string. -/
theorem Writes.inside? {c : Char} {written : List Char} (writes : Writes c written) :
    inside? (written ++ rest) =
      (Ron.inside? rest).map fun found => (written ++ found.1, found.2) := by
  cases writes with
  | plain noQuote noBackslash => exact inside?_plain noQuote noBackslash
  | letter named => rfl
  | codePoint =>
    have each : ∀ d ∈ '{' :: Nat.toDigits 16 c.toNat ++ ['}'], d ≠ '"' ∧ d ≠ '\\' := by
      intro d listed
      simp only [List.cons_append, List.mem_cons, List.mem_append, List.not_mem_nil,
        or_false] at listed
      obtain rfl | digit | rfl := listed
      · decide
      · exact (harmless_of_mem_toDigits digit).1
      · decide
    have behind : Ron.inside? ('{' :: Nat.toDigits 16 c.toNat ++ ['}'] ++ rest) = _ :=
      inside?_append_plain each
    simp only [Text.byCodePoint, List.cons_append, List.nil_append, Ron.inside?] at behind ⊢
    rw [behind, Option.map_map]
    rfl

theorem charOfCode?_toNat (c : Char) : Text.charOfCode? c.toNat = some c := by
  have valid : c.toNat < 0xD800 ∨ (0xDFFF < c.toNat ∧ c.toNat < 0x110000) := c.valid
  rw [Text.charOfCode?, if_pos valid, Char.ofNat_toNat]

theorem textEscape?_letter {letter c : Char} (named : letterEscape? letter = some c) :
    textEscape? (letter :: rest) = some (c, rest) := by
  rw [textEscape?.eq_def]
  split
  case h_1 same =>
    obtain ⟨rfl, rfl⟩ := List.cons.inj same
    cases named
  case h_2 same =>
    obtain ⟨rfl, rfl⟩ := List.cons.inj same
    cases named
  case h_3 same =>
    obtain ⟨rfl, rfl⟩ := List.cons.inj same
    rw [named, Option.map_some]
  case h_4 empty => nomatch empty

/-- A code point in braces stands for its character. -/
theorem textEscape?_codePoint (c : Char) :
    textEscape? ('u' :: '{' :: (Nat.toDigits 16 c.toNat ++ '}' :: rest)) = some (c, rest) := by
  have each : ∀ d ∈ Nat.toDigits 16 c.toNat, (d != '}') = true := by
    intro d listed
    exact bne_iff_ne.2 (harmless_of_mem_toDigits listed).2
  have nonempty : (Nat.toDigits 16 c.toNat).isEmpty = false := by
    rw [List.isEmpty_eq_false_iff]
    exact Nat.toDigits_ne_nil
  have short : (Nat.toDigits 16 c.toNat).length ≤ 6 := by
    refine (Nat.length_toDigits_le_iff (by decide) (by decide)).2 ?_
    have valid : c.toNat < 0xD800 ∨ (0xDFFF < c.toNat ∧ c.toNat < 0x110000) := c.valid
    omega
  have number : Text.numberInBase? 16 (Nat.toDigits 16 c.toNat) = some c.toNat :=
    numberInBase?_toDigits (by decide) (by decide) c.toNat
  have notLonger : ¬6 < (Nat.toDigits 16 c.toNat).length := Nat.not_lt.2 short
  rw [textEscape?, codePointEscape?]
  simp [List.takeWhile_append_of_pos each, List.dropWhile_append_of_pos each, nonempty, notLonger,
    Text.hexNumber?, number, charOfCode?_toNat]

/-- A written character stands for this character. -/
theorem Writes.unescapeText? {c : Char} {written : List Char} (writes : Writes c written) :
    unescapeText? (written ++ rest) = (Ron.unescapeText? rest).map (c :: ·) := by
  have escape {text : List Char} (read : textEscape? text = some (c, rest))
      (shorter : rest.length ≤ text.length) :
      Ron.unescapeText? ('\\' :: text) = (Ron.unescapeText? rest).map (c :: ·) := by
    rw [Ron.unescapeText?, unescape?, if_pos rfl, read]
    exact if_pos shorter
  cases writes with
  | plain noQuote noBackslash =>
    rw [Ron.unescapeText?, List.singleton_append, unescape?, if_neg noBackslash]
    rfl
  | letter named => exact escape (textEscape?_letter named) (Nat.le_succ _)
  | codePoint =>
    simp only [Text.byCodePoint, List.cons_append, List.nil_append, List.append_assoc]
    refine escape (textEscape?_codePoint c) ?_
    simp only [List.length_cons, List.length_append]
    omega

/-- The inside of a string spells its text. -/
theorem unescapeText?_flatMap (text : List Char) :
    unescapeText? (text.flatMap (Text.escaped true)) = some text := by
  induction text with
  | nil => rw [List.flatMap_nil, unescapeText?, unescape?]
  | cons c text ih => rw [List.flatMap_cons, (writes_escaped c).unescapeText?, ih, Option.map_some]

/-- The inside of a string ends at its quotation mark. -/
theorem inside?_flatMap (text : List Char) :
    inside? (text.flatMap (Text.escaped true) ++ '"' :: rest) =
      some (text.flatMap (Text.escaped true), rest) := by
  induction text with
  | nil => rfl
  | cons c text ih =>
    rw [List.flatMap_cons, List.append_assoc, (writes_escaped c).inside?, ih, Option.map_some]

/-- **A quoted text is read as one word with this text.** -/
theorem tokens_quoted (text : String) :
    tokens (Text.quotedChars true text ++ rest) = .string text :: tokens rest := by
  have word : stringToken (text.toList.flatMap (Text.escaped true) ++ '"' :: rest) =
      (.string text, rest) := by
    simp only [stringToken, inside?_flatMap, unescapeText?_flatMap, String.ofList_toList]
  rw [Text.quotedChars, List.cons_append, List.cons_append, List.append_assoc,
    List.singleton_append]
  refine tokens_of_word rfl word ?_
  simp only [List.length_cons, List.length_append]
  omega

/-! ## Numbers -/

/-- No character of a number stands behind it. -/
theorem numberChars_append {digits : List Char} (each : ∀ c ∈ digits, c.isDigit = true)
    (signAllowed : Bool) :
    numberChars signAllowed (digits ++ ')' :: rest) = digits := by
  induction digits generalizing signAllowed with
  | nil => cases signAllowed <;> rfl
  | cons c digits ih =>
    obtain ⟨here, others⟩ := List.forall_mem_cons.1 each
    have alphanumeric : c.isAlphanum = true := Bool.or_eq_true_iff.2 (.inr here)
    rw [List.cons_append, numberChars, alphanumeric, ih others]
    rfl

theorem sign_digit {c : Char} (digit : c.isDigit = true) :
    sign (c :: rest) = (false, c :: rest) := by
  unfold sign
  split
  case h_1 same => exact absurd digit (by rw [(List.cons.inj same).1]; decide)
  case h_2 same => exact absurd digit (by rw [(List.cons.inj same).1]; decide)
  case h_3 => rfl

/-- Nothing stands behind the last digit that could be the name of a kind. -/
theorem splitKind_digits {digits : List Char}
    (each : ∀ c ∈ digits, (Text.hexValue? c).isSome = true) :
    splitKind digits = (digits, none) := by
  have all : digits.takeWhile (fun c => (Text.hexValue? c).isSome || c == '_') = digits := by
    refine List.takeWhile_eq_self_iff.2 ?_
    intro c listed
    simp only [each c listed, Bool.true_or]
  simp only [splitKind, all, List.drop_length]
  rfl

theorem baseOf_digits {digits : List Char} (each : ∀ c ∈ digits, c.isDigit = true) :
    baseOf digits = (10, digits) := by
  unfold baseOf
  split
  case h_4 => rfl
  all_goals exact absurd (each _ (List.mem_cons_of_mem _ List.mem_cons_self)) (by decide)

/-- The digits of a number are a whole number without a sign. -/
theorem ofChars?_toDigits (number : Nat) :
    Whole.ofChars? (Nat.toDigits 10 number) =
      some { negative := false, magnitude := number, kind := none } := by
  have value : Text.numberInBase? 10 (Nat.toDigits 10 number) = some number :=
    numberInBase?_toDigits (by decide) (by decide) number
  have digits : ∀ c ∈ Nat.toDigits 10 number,
      c.isDigit = true ∧ (Text.hexValue? c).isSome = true ∧ (c != '_') = true := by
    intro c listed
    obtain ⟨digit, below, rfl⟩ := exists_digit_of_mem (by decide) listed
    have all : ∀ digit < 10, (Nat.digitChar digit).isDigit = true ∧
        (Text.hexValue? (Nat.digitChar digit)).isSome = true ∧
          (Nat.digitChar digit != '_') = true := by decide
    exact all digit below
  have kind := splitKind_digits fun c listed => (digits c listed).2.1
  have base := baseOf_digits fun c listed => (digits c listed).1
  have kept : (Nat.toDigits 10 number).filter (· != '_') = Nat.toDigits 10 number :=
    List.filter_eq_self.2 fun c listed => (digits c listed).2.2
  have unsigned : sign (Nat.toDigits 10 number) = (false, Nat.toDigits 10 number) := by
    cases written : Nat.toDigits 10 number with
    | nil => exact absurd written Nat.toDigits_ne_nil
    | cons c more => exact sign_digit (digits c (written ▸ List.mem_cons_self)).1
  have starts : ((Nat.toDigits 10 number).head? == some '_' ||
      (Nat.toDigits 10 number).isEmpty) = false := by
    cases written : Nat.toDigits 10 number with
    | nil => exact absurd written Nat.toDigits_ne_nil
    | cons c more =>
      have other := (digits c (written ▸ List.mem_cons_self)).2.2
      simpa using other
  simp only [Whole.ofChars?, unsigned, kind, base, inBase?, starts, kept, value,
    Bool.false_eq_true, if_false, Option.map_some]

theorem firstToken_digit {c : Char} (digit : c.isDigit = true) :
    firstToken (c :: rest) = numberToken (c :: rest) := by
  unfold firstToken
  split
  case h_15 same =>
    obtain ⟨rfl, rfl⟩ := List.cons.inj same
    rw [digit]
    rfl
  case h_16 empty => nomatch empty
  all_goals
    rename_i same
    rw [(List.cons.inj same).1] at digit
    exact absurd digit (by decide)

/-- A digit is no layout. -/
theorem skipOne?_digit {c : Char} (digit : c.isDigit = true) : skipOne? (c :: rest) = none := by
  have code : 48 ≤ c.toNat ∧ c.toNat ≤ 57 := Char.isDigit_iff_toNat.1 digit
  refine skipOne?_inked ?_ ?_
  · rintro rfl
    exact absurd digit (by decide)
  · simp only [isSpace, Bool.or_eq_false_iff, Bool.and_eq_false_iff, decide_eq_false_iff_not,
      beq_eq_false_iff_ne]
    omega

/-- **The digits of a number are read as one word** before a parenthesis. -/
theorem tokens_natDigits {number : Nat} (small : number < Nat.pow 2 64) :
    tokens (Nat.toDigits 10 number ++ ')' :: rest) =
      .number (toString number) :: tokens (')' :: rest) := by
  have each : ∀ c ∈ Nat.toDigits 10 number, c.isDigit = true := fun _ listed =>
    Nat.isDigit_of_mem_toDigits (by decide) (by decide) listed
  have spelled : isNumber (Nat.toDigits 10 number) = true := by
    have inRange : Whole.isInRange { negative := false, magnitude := number, kind := none } =
        true := decide_eq_true small
    simp only [isNumber, ofChars?_toDigits, Option.any_some, inRange, Bool.true_or]
  have word : numberToken (Nat.toDigits 10 number ++ ')' :: rest) =
      (.number (toString number), ')' :: rest) := by
    simp only [numberToken, numberChars_append each, spelled, if_true, List.drop_left]
    rw [Nat.toString_eq_repr, Nat.repr_eq_ofList_toDigits]
  cases written : Nat.toDigits 10 number with
  | nil => exact absurd written Nat.toDigits_ne_nil
  | cons c more =>
    have digit := each c (written ▸ List.mem_cons_self)
    rw [written, List.cons_append] at word
    rw [List.cons_append]
    refine tokens_of_word (skipOne?_digit digit) ?_ ?_
    · rw [firstToken_digit digit, word]
    · simp only [List.length_cons, List.length_append]
      omega

/-! ## Bare words -/

/-- An identifier. -/
def isWord (name : String) : Bool :=
  name.toList.head?.any startsWord && name.toList.all Text.isInIdentifier

/-- A mark behind an identifier, which is no part of it. -/
def EndsWord (c : Char) : Prop := c = ',' ∨ c = ':'

theorem EndsWord.not_isInIdentifier {c : Char} (ends : EndsWord c) :
    Text.isInIdentifier c = false := by
  rcases ends with rfl | rfl <;> rfl

/-- What starts an identifier is a low line, a letter or beyond the first characters. -/
theorem code_of_startsWord {c : Char} (starts : startsWord c = true) :
    c.toNat = 95 ∨ (65 ≤ c.toNat ∧ c.toNat ≤ 90) ∨ (97 ≤ c.toNat ∧ c.toNat ≤ 122) ∨
      128 ≤ c.toNat := by
  simp only [startsWord, Text.startsIdentifier, Bool.or_eq_true, beq_iff_eq] at starts
  rcases starts with rfl | starts
  · exact .inl rfl
  · split at starts
    · have letter : ('A'.val ≤ c.val ∧ c.val ≤ 'Z'.val) ∨ ('a'.val ≤ c.val ∧ c.val ≤ 'z'.val) := by
        rcases Bool.or_eq_true_iff.1 starts with upper | lower
        · exact .inl (of_decide_eq_true upper)
        · obtain ⟨low, high⟩ := Bool.and_eq_true_iff.1 lower
          exact .inr ⟨of_decide_eq_true low, of_decide_eq_true high⟩
      simp only [UInt32.le_iff_toNat_le] at letter
      rcases letter with upper | lower
      · exact .inr (.inl upper)
      · exact .inr (.inr (.inl lower))
    · omega

/-- What follows the first letter of an identifier is no quotation mark and no number sign. -/
theorem EndsWord.head_ne {c d : Char} {more after : List Char} (ends : EndsWord c)
    (each : ∀ e ∈ more, Text.isInIdentifier e = true) (same : more ++ c :: rest = d :: after) :
    d ≠ '#' ∧ d ≠ '"' ∧ d ≠ '\'' := by
  cases more with
  | nil =>
    obtain ⟨rfl, -⟩ := List.cons.inj same
    rcases ends with rfl | rfl <;> decide
  | cons e more =>
    obtain ⟨rfl, -⟩ := List.cons.inj same
    have inside := each e List.mem_cons_self
    refine ⟨?_, ?_, ?_⟩ <;> rintro rfl <;> exact absurd inside (by decide)

theorem tokenOfR_word {c : Char} {more : List Char} (ends : EndsWord c)
    (each : ∀ e ∈ more, Text.isInIdentifier e = true) :
    tokenOfR ('r' :: (more ++ c :: rest)) = wordToken ('r' :: (more ++ c :: rest)) := by
  simp only [tokenOfR, List.drop_succ_cons, List.drop_zero]
  split
  case h_1 same => exact absurd rfl (ends.head_ne each same).1
  case h_2 same => exact absurd rfl (ends.head_ne each same).2.1
  case h_3 => rfl

theorem tokenOfB_word {c : Char} {more : List Char} (ends : EndsWord c)
    (each : ∀ e ∈ more, Text.isInIdentifier e = true) :
    tokenOfB ('b' :: (more ++ c :: rest)) = wordToken ('b' :: (more ++ c :: rest)) := by
  have second {d : Char} {after : List Char} (same : more ++ c :: rest = 'r' :: d :: after) :
      d ≠ '#' ∧ d ≠ '"' ∧ d ≠ '\'' := by
    cases more with
    | nil =>
      obtain ⟨rfl, -⟩ := List.cons.inj same
      rcases ends with marked | marked <;> cases marked
    | cons e more =>
      obtain ⟨-, behind⟩ := List.cons.inj same
      exact ends.head_ne (List.forall_mem_cons.1 each).2 behind
  simp only [tokenOfB, List.drop_succ_cons, List.drop_zero]
  split
  case h_1 same => exact absurd rfl (ends.head_ne each same).2.2
  case h_2 same => exact absurd rfl (ends.head_ne each same).2.1
  case h_3 same => exact absurd rfl (second same).2.1
  case h_4 same => exact absurd rfl (second same).1
  case h_5 => rfl

/-- What starts like an identifier and goes on like one is read as one. -/
theorem firstToken_word {c d : Char} {more : List Char} (ends : EndsWord c)
    (starts : startsWord d = true) (each : ∀ e ∈ more, Text.isInIdentifier e = true) :
    firstToken (d :: (more ++ c :: rest)) = wordToken (d :: (more ++ c :: rest)) := by
  unfold firstToken
  split
  -- two letters may also start a raw text or a byte
  case h_13 same =>
    obtain ⟨rfl, rfl⟩ := List.cons.inj same
    exact tokenOfR_word ends each
  case h_14 same =>
    obtain ⟨rfl, rfl⟩ := List.cons.inj same
    exact tokenOfB_word ends each
  case h_15 same =>
    obtain ⟨rfl, rfl⟩ := List.cons.inj same
    have code := code_of_startsWord starts
    have notNumber : (d.isDigit || d == '+' || d == '-' || d == '.') = false := by
      simp only [Bool.or_eq_false_iff, beq_eq_false_iff_ne]
      refine ⟨⟨⟨?_, ?_⟩, ?_⟩, ?_⟩
      · refine Bool.eq_false_iff.2 ?_
        intro digit
        have other : 48 ≤ d.toNat ∧ d.toNat ≤ 57 := Char.isDigit_iff_toNat.1 digit
        omega
      all_goals
        rintro rfl
        exact absurd starts (by decide)
    rw [notNumber, starts]
    rfl
  case h_16 empty => nomatch empty
  -- the marks start no identifier
  all_goals
    rename_i same
    rw [(List.cons.inj same).1] at starts
    exact absurd starts (by decide)

/-- What starts an identifier is no layout. -/
theorem skipOne?_word {c : Char} (starts : startsWord c = true) : skipOne? (c :: rest) = none := by
  refine skipOne?_inked ?_ ?_
  · rintro rfl
    exact absurd starts (by decide)
  · refine Bool.eq_false_iff.2 ?_
    intro space
    have code := code_of_startsWord starts
    simp only [isSpace, Bool.or_eq_true, Bool.and_eq_true, decide_eq_true_eq,
      beq_iff_eq] at space
    have far : c.toNat ∈ [0x85, 0x200E, 0x200F, 0x2028, 0x2029] := by
      simp only [List.mem_cons, List.not_mem_nil, or_false]
      omega
    have none : ∀ number ∈ [0x85, 0x200E, 0x200F, 0x2028, 0x2029],
        startsWord (Char.ofNat number) = false := by decide +kernel
    have other := none c.toNat far
    rw [Char.ofNat_toNat, starts] at other
    cases other

/-- **An identifier is read as one word.** -/
theorem tokens_word {name : String} (word : isWord name = true) {c : Char} (ends : EndsWord c) :
    tokens (name.toList ++ c :: rest) = .word name false :: tokens (c :: rest) := by
  have inside := word
  simp only [isWord, Bool.and_eq_true, List.all_eq_true] at inside
  obtain ⟨starts, each⟩ := inside
  have whole : wordToken (name.toList ++ c :: rest) = (.word name false, c :: rest) := by
    have stops : (c :: rest).takeWhile Text.isInIdentifier = [] :=
      List.takeWhile_cons_of_neg (by simp [ends.not_isInIdentifier])
    have goesOn : (c :: rest).dropWhile Text.isInIdentifier = c :: rest :=
      List.dropWhile_cons_of_neg (by simp [ends.not_isInIdentifier])
    rw [wordToken, List.takeWhile_append_of_pos each, List.dropWhile_append_of_pos each, stops,
      goesOn, List.append_nil, String.ofList_toList]
  cases written : name.toList with
  | nil => simp [written] at starts
  | cons d more =>
    rw [written] at starts each whole
    rw [List.cons_append] at whole ⊢
    have first := (List.forall_mem_cons.1 each).2
    refine tokens_of_word (skipOne?_word starts) ?_ ?_
    · rw [firstToken_word ends starts first, whole]
    · simp only [List.length_cons, List.length_append]
      omega

end EventNet.Ron
