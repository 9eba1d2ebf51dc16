import EventNet.Json.Number
import EventNet.Text.Hexadecimal

/-!
# The words of a JSON text

A text is cut into words. Cutting stops at the first word that cannot be read, and the
word is then a flaw.

A flaw has several sides, because the text may be read for its meaning or only be
passed over. Whoever passes over a string does not look at the code points it spells,
and whoever passes over a number does not tell a number that is cut short from one
that is malformed. Whoever wants one of several names looks no further than the first
character of a word that is no string.
-/

set_option autoImplicit false

namespace EventNet.Json

/-- Why a text is not what is wanted. -/
inductive Problem where
  /-- The text ends too early. -/
  | cutShort
  /-- The text is no JSON. -/
  | malformed
  /-- The text is JSON and does not fit its purpose. -/
  | unsuitable
  deriving DecidableEq

/-- What is wrong at a place of a text. -/
structure Flaw where
  /-- The problem for a reader who wants the value there. -/
  wanted : Problem
  /-- The problem for a reader who passes over it. -/
  skipped : Problem
  /-- The problem for a reader who wants one of several names. -/
  asChoice : Problem

/-- A flaw that is the same for every reader. -/
def Flaw.plain (problem : Problem) : Flaw :=
  { wanted := problem, skipped := problem, asChoice := problem }

/-- A flaw in a word that does not start like a string. -/
def Flaw.inWord (wanted skipped : Problem) : Flaw := { wanted, skipped, asChoice := .malformed }

/-- A word of a text. -/
inductive Token where
  | openArray
  | closeArray
  | openObject
  | closeObject
  | comma
  | colon
  | null
  | bool (value : Bool)
  | number (literal : NumberLiteral)
  /-- A string, without a text if its escapes spell none. -/
  | string (text : Option String)
  /-- A flawed string. -/
  | badString (flaw : Flaw)
  /-- Another word that cannot be read. -/
  | bad (flaw : Flaw)

/-! ## Strings -/

/-- A part of a string: a character, or a unit of UTF-16 given by number. -/
inductive Piece where
  | char (c : Char)
  | unit (code : Nat)

/-- How the reading of a string ends: behind its last quotation mark, or at a flaw. -/
abbrev Ending := Except Problem (List Char)

/-- The problem of an escape by number at the end of a text. Four bytes would be needed. -/
def shortUnitProblem (text : List Char) : Problem :=
  if text.foldr (fun c size => c.utf8Size + size) 0 < 4 then .cutShort else .malformed

/-- The character that a single letter after a backslash stands for. -/
def simpleEscape? : Char → Option Char
  | '"' => some '"'
  | '\\' => some '\\'
  | '/' => some '/'
  | 'b' => some '\x08'
  | 'f' => some '\x0c'
  | 'n' => some '\n'
  | 'r' => some '\r'
  | 't' => some '\t'
  | _ => none

/-- The parts of a string, from behind its first quotation mark. -/
def scanString : List Char → List Piece × Ending
  | [] => ([], .error .cutShort)
  | '"' :: rest => ([], .ok rest)
  | '\\' :: [] => ([], .error .cutShort)
  | '\\' :: 'u' :: a :: b :: c :: d :: rest =>
    match Text.hexNumber? [a, b, c, d] with
    | none => ([], .error .malformed)
    | some code =>
      let more := scanString rest
      (.unit code :: more.1, more.2)
  | '\\' :: 'u' :: rest => ([], .error (shortUnitProblem rest))
  | '\\' :: e :: rest =>
    match simpleEscape? e with
    | none => ([], .error .malformed)
    | some c =>
      let more := scanString rest
      (.char c :: more.1, more.2)
  | c :: rest =>
    if c.toNat < 0x20 then ([], .error .malformed)
    else
      let more := scanString rest
      (.char c :: more.1, more.2)

/-- A unit that starts a pair. -/
def isHighUnit (code : Nat) : Bool := 0xD800 ≤ code && code < 0xDC00

/-- A unit that ends a pair. -/
def isLowUnit (code : Nat) : Bool := 0xDC00 ≤ code && code < 0xE000

/-- The character that a pair of units stands for. -/
def pairChar (high low : Nat) : Char :=
  Char.ofNat (0x10000 + (high - 0xD800) * 0x400 + (low - 0xDC00))

/-- The characters that the parts of a string spell; there are none if a unit of a pair
stands alone. In a string that breaks off, a first unit at the very end may be half of
a pair. -/
def spell? (closed : Bool) : List Piece → Option (List Char)
  | [] => some []
  | .char c :: pieces => (spell? closed pieces).map (c :: ·)
  | .unit code :: .unit next :: pieces =>
    if isLowUnit code then none
    else if isHighUnit code then
      if isLowUnit next then (spell? closed pieces).map (pairChar code next :: ·) else none
    else (spell? closed (.unit next :: pieces)).map (Char.ofNat code :: ·)
  | .unit code :: pieces =>
    if isLowUnit code then none
    else if isHighUnit code then
      if pieces.isEmpty && !closed then some [] else none
    else (spell? closed pieces).map (Char.ofNat code :: ·)

/-- The string behind a quotation mark as a word, and what follows it. -/
def stringToken (text : List Char) : Token × List Char :=
  let (pieces, ending) := scanString text
  match ending with
  | .ok rest => (.string ((spell? true pieces).map String.ofList), rest)
  | .error problem =>
    let wanted := if (spell? false pieces).isSome then problem else .malformed
    (.badString { wanted, skipped := problem, asChoice := wanted }, [])

/-! ## Numbers and names -/

/-- What is wrong where a digit should be. -/
def missingDigit (text : List Char) : Flaw :=
  if text.isEmpty then .inWord .cutShort .malformed else .plain .malformed

/-- The digits at the start of a text. -/
def digits (text : List Char) : List Char := text.takeWhile Char.isDigit

/-- What follows the digits at the start of a text. -/
def afterDigits (text : List Char) : List Char := text.dropWhile Char.isDigit

/-- The fraction of a number, if it has one. -/
def fractionPart : List Char → Except Flaw (Option (List Char) × List Char)
  | '.' :: rest =>
    if (digits rest).isEmpty then .error (missingDigit rest)
    else .ok (some (digits rest), afterDigits rest)
  | text => .ok (none, text)

/-- The sign of an exponent, if it is negative, and what follows the sign. -/
def exponentSign : List Char → Bool × List Char
  | '-' :: rest => (true, rest)
  | '+' :: rest => (false, rest)
  | text => (false, text)

/-- The exponent of a number, if it has one. -/
def exponentPart : List Char → Except Flaw (Option (Bool × List Char) × List Char)
  | [] => .ok (none, [])
  | c :: rest =>
    if c = 'e' ∨ c = 'E' then
      let signed := exponentSign rest
      if (digits signed.2).isEmpty then .error (missingDigit signed.2)
      else .ok (some (signed.1, digits signed.2), afterDigits signed.2)
    else .ok (none, c :: rest)

/-- The number with these whole digits, and what follows it. -/
def numberEnd (negative : Bool) (whole text : List Char) :
    Except Flaw (NumberLiteral × List Char) :=
  match fractionPart text with
  | .error flaw => .error flaw
  | .ok (fraction, text) =>
    match exponentPart text with
    | .error flaw => .error flaw
    | .ok (exponent, text) => .ok ({ negative, whole, fraction, exponent }, text)

/-- The number at the start of a text, which is behind the sign if there is one. A number
has no superfluous zero in front. -/
def numberToken (negative : Bool) (text : List Char) : Token × List Char :=
  match digits text with
  | [] => (.bad (missingDigit text), [])
  | '0' :: _ :: _ => (.bad (.plain .malformed), [])
  | whole =>
    match numberEnd negative whole (afterDigits text) with
    | .ok (literal, rest) => (.number literal, rest)
    | .error flaw => (.bad flaw, [])

/-- The rest of a fixed name as a word. -/
def nameToken (word : Token) : List Char → List Char → Token × List Char
  | [], text => (word, text)
  | _ :: _, [] => (.bad (.inWord .cutShort .cutShort), [])
  | expected :: name, c :: text =>
    if c = expected then nameToken word name text else (.bad (.plain .malformed), [])

/-! ## The whole text -/

/-- A character that may stand between words. -/
def isSpace (c : Char) : Bool := c == ' ' || c == '\n' || c == '\t' || c == '\r'

/-- The word that starts with a character, and what follows it. -/
def tokenFrom (c : Char) (rest : List Char) : Token × List Char :=
  match c with
  | '[' => (.openArray, rest)
  | ']' => (.closeArray, rest)
  | '{' => (.openObject, rest)
  | '}' => (.closeObject, rest)
  | ',' => (.comma, rest)
  | ':' => (.colon, rest)
  | '"' => stringToken rest
  | '-' => numberToken true rest
  | 'n' => nameToken .null ['u', 'l', 'l'] rest
  | 't' => nameToken (.bool true) ['r', 'u', 'e'] rest
  | 'f' => nameToken (.bool false) ['a', 'l', 's', 'e'] rest
  | c => if c.isDigit then numberToken false (c :: rest) else (.bad (.plain .malformed), [])

theorem length_scanString {text rest : List Char} (closed : (scanString text).2 = .ok rest) :
    rest.length < text.length := by
  fun_induction scanString text with
  | case1 => simp at closed
  | case2 after => simp only [Except.ok.injEq] at closed; subst closed; simp
  | case3 => simp at closed
  | case4 => simp at closed
  | case5 a b c d after code _ _ ih =>
    have := ih closed
    simp only [List.length_cons]
    omega
  | case6 => simp at closed
  | case7 => simp at closed
  | case8 e after _ _ c _ _ ih =>
    have := ih closed
    simp only [List.length_cons]
    omega
  | case9 => simp at closed
  | case10 c after _ _ _ _ _ _ _ ih =>
    have := ih closed
    simp only [List.length_cons]
    omega

theorem length_stringToken (text : List Char) : (stringToken text).2.length ≤ text.length := by
  unfold stringToken
  split
  rename_i pieces ending scanned
  split
  · exact Nat.le_of_lt (length_scanString (by rw [scanned]))
  · exact Nat.zero_le _

theorem length_afterDigits (text : List Char) : (afterDigits text).length ≤ text.length :=
  (List.dropWhile_suffix _).length_le

theorem length_fractionPart {text rest : List Char} {fraction : Option (List Char)}
    (read : fractionPart text = .ok (fraction, rest)) : rest.length ≤ text.length := by
  unfold fractionPart at read
  split at read
  · split at read
    · simp at read
    · simp only [Except.ok.injEq, Prod.mk.injEq] at read
      obtain ⟨_, rfl⟩ := read
      exact Nat.le_succ_of_le (length_afterDigits _)
  · simp only [Except.ok.injEq, Prod.mk.injEq] at read
    obtain ⟨_, rfl⟩ := read
    exact Nat.le_refl _

theorem length_exponentSign (text : List Char) : (exponentSign text).2.length ≤ text.length := by
  unfold exponentSign
  split <;> simp

theorem length_exponentPart {text rest : List Char} {exponent : Option (Bool × List Char)}
    (read : exponentPart text = .ok (exponent, rest)) : rest.length ≤ text.length := by
  unfold exponentPart at read
  split at read
  · simp only [Except.ok.injEq, Prod.mk.injEq] at read
    obtain ⟨_, rfl⟩ := read
    exact Nat.le_refl _
  · rename_i c after
    split at read
    · dsimp only at read
      split at read
      · simp at read
      · simp only [Except.ok.injEq, Prod.mk.injEq] at read
        obtain ⟨_, rfl⟩ := read
        exact Nat.le_succ_of_le
          (Nat.le_trans (length_afterDigits _) (length_exponentSign after))
    · simp only [Except.ok.injEq, Prod.mk.injEq] at read
      obtain ⟨_, rfl⟩ := read
      exact Nat.le_refl _

theorem length_numberEnd {negative : Bool} {whole text rest : List Char}
    {literal : NumberLiteral} (read : numberEnd negative whole text = .ok (literal, rest)) :
    rest.length ≤ text.length := by
  unfold numberEnd at read
  split at read
  · simp at read
  · rename_i first
    split at read
    · simp at read
    · rename_i second
      simp only [Except.ok.injEq, Prod.mk.injEq] at read
      obtain ⟨_, rfl⟩ := read
      exact Nat.le_trans (length_exponentPart second) (length_fractionPart first)

theorem length_numberToken (negative : Bool) (text : List Char) :
    (numberToken negative text).2.length ≤ text.length - 1 := by
  unfold numberToken
  split
  · simp
  · simp
  · rename_i nonempty _
    split
    · rename_i read
      have whole := congrArg List.length
        (List.takeWhile_append_dropWhile (p := Char.isDigit) (l := text))
      rw [List.length_append] at whole
      have positive : 0 < (text.takeWhile Char.isDigit).length := by
        cases taken : text.takeWhile Char.isDigit with
        | nil => exact absurd taken nonempty
        | cons => simp
      have := length_numberEnd read
      simp only [afterDigits] at this
      dsimp only
      omega
    · simp

theorem length_nameToken (word : Token) (name text : List Char) :
    (nameToken word name text).2.length ≤ text.length := by
  fun_induction nameToken word name text with
  | case1 => exact Nat.le_refl _
  | case2 => exact Nat.zero_le _
  | case3 _ _ _ ih => exact Nat.le_succ_of_le ih
  | case4 => exact Nat.zero_le _

theorem length_tokenFrom (c : Char) (rest : List Char) :
    (tokenFrom c rest).2.length ≤ rest.length := by
  unfold tokenFrom
  split
  all_goals first
    | exact Nat.le_refl _
    | exact length_stringToken _
    | exact length_nameToken _ _ _
    | exact Nat.le_trans (length_numberToken true rest) (Nat.sub_le _ _)
    | skip
  split
  · simpa using length_numberToken false (_ :: rest)
  · exact Nat.zero_le _

/-- The words of a text. -/
def tokens (text : List Char) : List Token :=
  match text with
  | [] => []
  | c :: rest =>
    if isSpace c then tokens rest
    else
      let word := tokenFrom c rest
      word.1 :: tokens word.2
  termination_by text.length
  decreasing_by
    · simp
    · exact Nat.lt_succ_of_le (length_tokenFrom c rest)

end EventNet.Json
