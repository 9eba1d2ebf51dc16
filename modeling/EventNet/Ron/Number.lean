import EventNet.Text.Hexadecimal

/-!
# Numbers in RON texts

A number is a whole number, a decimal or a special value. A whole number may be written
in base two, eight, ten or sixteen with low lines behind its first digit, and may end
with the name of the kind of integers that it belongs to. Without one it must fit into 64
bits. A decimal may have a point and an exponent, and may end with the name of a kind of
floats; low lines may stand behind its digits. Whole numbers in base ten are decimals
too, so that none of them is too large.
-/

set_option autoImplicit false

namespace EventNet.Ron

/-- The sign in front of a number, if it is negative, and what follows it. -/
def sign : List Char → Bool × List Char
  | '-' :: text => (true, text)
  | '+' :: text => (false, text)
  | text => (false, text)

/-! ## Whole numbers -/

/-- A kind of integers: so many bits, with or without a sign. -/
structure IntegerKind where
  signed : Bool
  bits : Nat
  deriving DecidableEq

namespace IntegerKind

/-- The kind of integers that a number ends with. -/
def ofName? : List Char → Option IntegerKind
  | [] => none
  | letter :: bits =>
    if letter = 'i' ∨ letter = 'u' then
      (match bits with
      | ['8'] => some 8
      | ['1', '6'] => some 16
      | ['3', '2'] => some 32
      | ['6', '4'] => some 64
      | _ => none).map fun bits => { signed := letter = 'i', bits }
    else none

/-- The kind has the number with a sign and a magnitude. -/
def contains (kind : IntegerKind) (negative : Bool) (magnitude : Nat) : Bool :=
  match kind.signed, negative with
  | true, true => magnitude ≤ Nat.pow 2 (kind.bits - 1)
  | true, false => magnitude < Nat.pow 2 (kind.bits - 1)
  | false, true => magnitude = 0
  | false, false => magnitude < Nat.pow 2 kind.bits

end IntegerKind

/-- A whole number in a text. -/
structure Whole where
  negative : Bool
  magnitude : Nat
  /-- The kind of integers that is named behind the digits. -/
  kind : Option IntegerKind

/-- The base that the start of a number announces, and the digits behind it. -/
def baseOf : List Char → Nat × List Char
  | '0' :: 'b' :: rest => (2, rest)
  | '0' :: 'o' :: rest => (8, rest)
  | '0' :: 'x' :: rest => (16, rest)
  | digits => (10, digits)

/-- The number that digits spell in a base; low lines may stand behind the first digit. -/
def inBase? (base : Nat) (digits : List Char) : Option Nat :=
  if digits.head? == some '_' || digits.isEmpty then none
  else
    Text.numberInBase? base (digits.filter (· != '_'))

/-- The digits of a number and the kind of integers that is named behind them. Only digits
and low lines may stand in front of the name. -/
def splitKind (text : List Char) : List Char × Option IntegerKind :=
  let digits := text.takeWhile fun c => (Text.hexValue? c).isSome || c == '_'
  match IntegerKind.ofName? (text.drop digits.length) with
  | some kind => (digits, some kind)
  | none => (text, none)

namespace Whole

/-- The whole number that a text spells. -/
def ofChars? (text : List Char) : Option Whole :=
  let (negative, text) := sign text
  let (text, kind) := splitKind text
  let (base, digits) := baseOf text
  (inBase? base digits).map fun magnitude => { negative, magnitude, kind }

/-- The number belongs to the kind that is named, or fits into 64 bits. -/
def isInRange (whole : Whole) : Bool :=
  let kind := whole.kind.getD { signed := whole.negative, bits := 64 }
  kind.contains whole.negative whole.magnitude

end Whole

/-- The natural number that a literal denotes, which names no kind of integers but that of
32 bits without a sign. A minus sign is possible in front of zero. -/
def natOf? (literal : String) : Option Nat := do
  let whole ← Whole.ofChars? literal.toList
  if whole.kind.all (· = { signed := false, bits := 32 }) &&
      (!whole.negative || whole.magnitude = 0) then
    return whole.magnitude
  else none

/-! ## Decimals and special values -/

/-- A letter that starts an exponent. -/
def isExponentMark (c : Char) : Bool := c == 'e' || c == 'E'

/-- Low lines stand behind a digit or the letter of the exponent only, with nothing but
signs between them. A point starts anew. -/
def hasLinesInPlace (allowed : Bool) : List Char → Bool
  | [] => true
  | '_' :: text => allowed && hasLinesInPlace allowed text
  | '.' :: text => hasLinesInPlace false text
  | c :: text => hasLinesInPlace (allowed || c.isDigit || isExponentMark c) text

/-- Digits, and at least one. -/
def areDigits (text : List Char) : Bool := !text.isEmpty && text.all Char.isDigit

/-- Digits with a point before, between or behind them. -/
def isFraction (text : List Char) : Bool :=
  let whole := text.takeWhile (· != '.')
  let places := (text.dropWhile (· != '.')).drop 1
  areDigits (whole ++ places)

/-- A decimal without low lines. -/
def isPlainDecimal (text : List Char) : Bool :=
  let magnitude := (sign text).2
  let exponent := magnitude.dropWhile fun c => !isExponentMark c
  isFraction (magnitude.takeWhile fun c => !isExponentMark c) &&
    (exponent.isEmpty || areDigits (sign (exponent.drop 1)).2)

/-- The text without the name of a kind of floats at its end. -/
def withoutFloatKind (text : List Char) : List Char :=
  let kept := text.take (text.length - 3)
  let name := text.drop (text.length - 3)
  if name == ['f', '3', '2'] || name == ['f', '6', '4'] then kept else text

/-- A decimal, perhaps with the name of a kind of floats. -/
def isDecimal (text : List Char) : Bool :=
  let digits := withoutFloatKind text
  hasLinesInPlace false digits && isPlainDecimal (digits.filter (· != '_'))

/-- Infinity or no number, with a sign. -/
def isSignedSpecial (text : List Char) : Bool :=
  match text with
  | '+' :: name | '-' :: name =>
    let name := withoutFloatKind name
    name == ['i', 'n', 'f'] || name == ['N', 'a', 'N']
  | _ => false

/-- A text that spells a number. -/
def isNumber (text : List Char) : Bool :=
  (Whole.ofChars? text).any Whole.isInRange || isDecimal text || isSignedSpecial text

end EventNet.Ron
