/-!
# The exact value of a float

A finite float is a sign, a whole number and a power of two. Texts of floats are
chosen by exact arithmetic on these, never by arithmetic on floats.
-/

set_option autoImplicit false

namespace EventNet.Decimal

/-- A fraction of natural numbers. -/
structure Ratio where
  numerator : Nat
  denominator : Nat

/-- A finite float: its sign, and its magnitude as `mantissa` times two to the power
`exponent - 1074`. -/
structure Binary where
  negative : Bool
  mantissa : Nat
  exponent : Nat

namespace Binary

/-- The parts of a float, or nothing if it is infinite or no number. -/
def ofFloat? (value : Float) : Option Binary :=
  let bits := value.toBits.toNat
  let negative := bits / Nat.pow 2 63 == 1
  let biased := bits / Nat.pow 2 52 % Nat.pow 2 11
  let fraction := bits % Nat.pow 2 52
  if biased == 2047 then none
  else if biased == 0 then some { negative, mantissa := fraction, exponent := 0 }
  else some { negative, mantissa := Nat.pow 2 52 + fraction, exponent := biased - 1 }

/-- So many quarters of the last binary place at an exponent, as a fraction. -/
def quarters (exponent count : Nat) : Ratio :=
  { numerator := count * Nat.pow 2 exponent, denominator := Nat.pow 2 1076 }

/-- The magnitude as a fraction. -/
def magnitude (binary : Binary) : Ratio := quarters binary.exponent (4 * binary.mantissa)

end Binary

/-- The quotient rounded to the nearest whole number; a half goes to the even neighbour. -/
def roundHalfEven (numerator denominator : Nat) : Nat :=
  let quotient := numerator / denominator
  let twice := 2 * (numerator % denominator)
  if twice < denominator then quotient
  else if denominator < twice then quotient + 1
  else if quotient % 2 == 0 then quotient
  else quotient + 1

end EventNet.Decimal
