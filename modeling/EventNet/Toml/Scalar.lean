import EventNet.Decimal.Range
import EventNet.Text.Hexadecimal
import EventNet.Toml.Basic

/-!
# Bare scalars of TOML

Numbers, truth values, dates and times are runs of letters, digits, low lines, signs,
points and colons. Low lines may stand between digits only. Whole numbers may be
written in other bases, and must fit 128 bits with or without a sign. A float must not be
so large that it would be rounded to infinity. A time of day may end with its minute.
-/

set_option autoImplicit false

namespace EventNet.Toml

/-- Digits of a class with low lines between them; the digits alone. -/
def separated? (isDigit : Char → Bool) : List Char → Option (List Char)
  | [] => none
  | [digit] => if isDigit digit then some [digit] else none
  | digit :: '_' :: digits =>
    if isDigit digit then (separated? isDigit digits).map (digit :: ·) else none
  | digit :: digits =>
    if isDigit digit then (separated? isDigit digits).map (digit :: ·) else none

/-- A digit of a base. -/
def isDigitOf (base : Nat) (c : Char) : Bool := (Text.numberInBase? base [c]).isSome

/-- The number that digits of a base spell. -/
def natural? (base : Nat) (text : List Char) : Option Nat := do
  Text.numberInBase? base (← separated? (isDigitOf base) text)

/-- A decimal number without superfluous zeros in front. -/
def decimal? (text : List Char) : Option Nat :=
  match text with
  | '0' :: _ :: _ => none
  | _ => natural? 10 text

/-- The sign in front of a number, if it is negative, and what follows it. -/
def sign : List Char → Bool × List Char
  | '-' :: text => (true, text)
  | '+' :: text => (false, text)
  | text => (false, text)

/-- A whole number. -/
def integer? (text : List Char) : Option Int :=
  let value : Option Int :=
    match text with
    | '0' :: 'x' :: digits => (natural? 16 digits).map Int.ofNat
    | '0' :: 'o' :: digits => (natural? 8 digits).map Int.ofNat
    | '0' :: 'b' :: digits => (natural? 2 digits).map Int.ofNat
    | _ =>
      let (negative, digits) := sign text
      (decimal? digits).map fun magnitude => if negative then -Int.ofNat magnitude else magnitude
  value.filter fun value => -Int.pow 2 127 ≤ value && value < Int.pow 2 128

/-- The exponent of a float, from behind its letter. -/
def exponent? (text : List Char) : Option Int :=
  let (negative, digits) := sign text
  (natural? 10 digits).map fun magnitude => if negative then -Int.ofNat magnitude else magnitude

/-- The magnitude of a float with a fraction, an exponent or both: a whole number and the
power of ten by which it is multiplied. -/
def magnitude? (text : List Char) : Option (Nat × Int) := do
  let isMark (c : Char) : Bool := c == 'e' || c == 'E'
  let plain := text.takeWhile fun c => !isMark c
  let exponent := text.dropWhile fun c => !isMark c
  let whole := plain.takeWhile (· != '.')
  let fraction := plain.dropWhile (· != '.')
  let front ← decimal? whole
  let places ← if fraction.isEmpty then some [] else separated? Char.isDigit (fraction.drop 1)
  let power ← if exponent.isEmpty then some 0 else exponent? (exponent.drop 1)
  let back ← Text.numberInBase? 10 places
  if fraction.isEmpty && exponent.isEmpty then none
  else return (front * Nat.pow 10 places.length + back, power - places.length)

/-- A float: a decimal number that is not too large, or a special value. -/
def isFloat (text : List Char) : Bool :=
  let magnitude := (sign text).2
  magnitude == ['i', 'n', 'f'] || magnitude == ['n', 'a', 'n'] ||
    ((magnitude? magnitude).map fun (number, exponent) =>
      !Decimal.isTooLarge number exponent).getD false

/-! ## Dates and times -/

/-- The number that exactly so many digits at the start of a text spell. -/
def leading? (count : Nat) (text : List Char) : Option (Nat × List Char) :=
  let digits := text.take count
  if digits.length = count && digits.all Char.isDigit then
    (Text.numberInBase? 10 digits).map fun number => (number, text.drop count)
  else none

/-- What follows a mark. -/
def behind? (mark : Char) : List Char → Option (List Char)
  | c :: text => if c = mark then some text else none
  | [] => none

/-- The number of days of a month. -/
def daysOf (year month : Nat) : Nat :=
  if month = 2 then
    if year % 4 = 0 && (year % 100 ≠ 0 || year % 400 = 0) then 29 else 28
  else if month = 4 || month = 6 || month = 9 || month = 11 then 30
  else 31

/-- What follows a date. -/
def afterDate? (text : List Char) : Option (List Char) := do
  let (year, text) ← leading? 4 text
  let (month, text) ← leading? 2 (← behind? '-' text)
  let (day, text) ← leading? 2 (← behind? '-' text)
  if 1 ≤ month && month ≤ 12 && 1 ≤ day && day ≤ daysOf year month then some text else none

/-- What follows the fraction of a second, if there is one. -/
def afterFraction? : List Char → Option (List Char)
  | '.' :: text =>
    if (text.takeWhile Char.isDigit).isEmpty then none else some (text.dropWhile Char.isDigit)
  | text => some text

/-- What follows the seconds of a time of day, if it has any. A minute may have a leap
second. -/
def afterSeconds? : List Char → Option (List Char)
  | ':' :: text => do
    let (second, text) ← leading? 2 text
    if second ≤ 60 then afterFraction? text else none
  | text => some text

/-- What follows a time of day. -/
def afterTime? (text : List Char) : Option (List Char) := do
  let (hour, text) ← leading? 2 text
  let (minute, text) ← leading? 2 (← behind? ':' text)
  if hour ≤ 23 && minute ≤ 59 then afterSeconds? text else none

/-- The offset of a time zone, or nothing. -/
def isOffset : List Char → Bool
  | [] => true
  | [c] => c == 'Z' || c == 'z'
  | c :: text =>
    (c == '+' || c == '-') &&
      (do
        let (hour, text) ← leading? 2 text
        let (minute, text) ← leading? 2 (← behind? ':' text)
        return hour ≤ 23 && minute ≤ 59 && text.isEmpty).getD false

/-- A time of day, perhaps with the offset of a time zone. -/
def isTimeWithOffset (text : List Char) : Bool := ((afterTime? text).map isOffset).getD false

/-- A date alone. -/
def isDate (text : List Char) : Bool := ((afterDate? text).map List.isEmpty).getD false

/-- A date, a time of day, or both with a letter or a blank between them. -/
def isTime (text : List Char) : Bool :=
  ((afterTime? text).map List.isEmpty).getD false ||
    match afterDate? text with
    | some [] => true
    | some (c :: clock) => (c == 'T' || c == 't' || c == ' ') && isTimeWithOffset clock
    | none => false

/-! ## All scalars -/

/-- A character of a bare scalar. -/
def isScalarChar (c : Char) : Bool :=
  c.isAlphanum || c == '_' || c == '+' || c == '-' || c == '.' || c == ':'

/-- The value of a bare scalar. -/
def scalar? (text : List Char) : Option Toml :=
  if text = ['t', 'r', 'u', 'e'] then some (.bool true)
  else if text = ['f', 'a', 'l', 's', 'e'] then some (.bool false)
  else if isTime text then some (.time (String.ofList text))
  else if isFloat text then some (.float (String.ofList text))
  else (integer? text).map .integer

/-- The characters of a bare scalar at the start of a text. A date and a time may have a
blank between them. -/
def scalarChars (text : List Char) : List Char :=
  let first := text.takeWhile isScalarChar
  match text.drop first.length with
  | ' ' :: c :: rest =>
    if isDate first && c.isDigit then first ++ ' ' :: c :: rest.takeWhile isScalarChar else first
  | _ => first

end EventNet.Toml
