/-!
# Numbers in JSON texts

A number literal has an optional minus sign, whole digits, an optional fraction and an
optional exponent. One without fraction and exponent is a whole number if it fits into
64 bits, and a float otherwise.

A float is read from the digits that fit into 64 bits, taken as one whole number, and
is then scaled once by a power of ten; for the very small ones the scaling takes
several steps. That is quick but may miss the nearest float by one place.
-/

set_option autoImplicit false

namespace EventNet.Json

/-- The parts of a number in a text. -/
structure NumberLiteral where
  negative : Bool
  whole : List Char
  fraction : Option (List Char) := none
  /-- Whether the exponent is negative, and its digits. -/
  exponent : Option (Bool × List Char) := none

/-- The value of a number. -/
inductive Number where
  | unsigned (value : Nat)
  /-- The negative number of this magnitude. -/
  | negated (magnitude : Nat)
  | float (value : Float)

/-- The value of a decimal digit. -/
def digitValue (c : Char) : Nat := c.toNat - 48

/-- The greatest whole number that a literal can denote. -/
def maxWhole : Nat := Nat.pow 2 64 - 1

/-- Appends digits to a whole number while it stays within `limit`, and gives the digits
that are left. -/
def absorb (limit : Nat) (number : Nat) : List Char → Nat × List Char
  | [] => (number, [])
  | digit :: digits =>
    let longer := number * 10 + digitValue digit
    if longer ≤ limit then absorb limit longer digits else (number, digit :: digits)

/-- The greatest power of ten by which a float is scaled in one step. -/
def maxScale : Nat := 308

/-- A power of ten. -/
def powerOfTen (exponent : Nat) : Float := Float.ofScientific 1 false exponent

/-- A float divided by a power of ten. -/
def scaleDown (value : Float) (exponent : Nat) : Float :=
  if exponent ≤ maxScale then value / powerOfTen exponent
  else if value == 0.0 then value
  else scaleDown (value / powerOfTen maxScale) (exponent - maxScale)
  termination_by exponent
  decreasing_by
    have : 0 < maxScale := by decide
    omega

/-- A float multiplied by a power of ten, if the product is finite. -/
def scaleUp? (value : Float) (exponent : Nat) : Option Float :=
  if exponent ≤ maxScale then
    let scaled := value * powerOfTen exponent
    if scaled.isInf then none else some scaled
  else if value == 0.0 then some value
  else none

/-- A whole number scaled by a power of ten, if that is finite. -/
def scaled? (significand : Nat) (exponent : Int) : Option Float :=
  let value := Float.ofNat significand
  match exponent with
  | .ofNat up => scaleUp? value up
  | .negSucc down => some (scaleDown value (down + 1))

namespace NumberLiteral

/-- The float that a literal denotes, without its sign; there is none beyond the range. -/
def magnitude? (literal : NumberLiteral) : Option Float :=
  let (significand, wholeLeft) := absorb maxWhole 0 literal.whole
  let fraction := literal.fraction.getD []
  let (significand, fractionLeft) := absorb maxWhole significand fraction
  let shift : Int := wholeLeft.length - (fraction.length - fractionLeft.length : Nat)
  match literal.exponent with
  | none => scaled? significand shift
  | some (negative, digits) =>
    match absorb (Nat.pow 2 31 - 1) 0 digits with
    | (exponent, []) =>
      scaled? significand (if negative then shift - exponent else shift + exponent)
    | (_, _ :: _) => if significand == 0 || negative then some 0.0 else none

/-- The value of a literal; there is none beyond the range of floats. -/
def value? (literal : NumberLiteral) : Option Number :=
  match literal.fraction, literal.exponent, absorb maxWhole 0 literal.whole with
  | none, none, (whole, []) =>
    if !literal.negative then some (.unsigned whole)
    else if whole == 0 || Nat.pow 2 63 < whole then some (.float (-Float.ofNat whole))
    else some (.negated whole)
  | _, _, _ =>
    literal.magnitude?.map fun value => .float (if literal.negative then -value else value)

end NumberLiteral

end EventNet.Json
