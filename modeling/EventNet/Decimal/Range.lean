/-!
# The range of floats

A decimal is too large for a float if it would be rounded to infinity, that is, if it
reaches the middle between the greatest finite float and the next power of two. This is
decided exactly. The number of digits in front of the point settles it except for the
decimals with 309 of them, so that no power beyond the range is ever formed.
-/

set_option autoImplicit false

namespace EventNet.Decimal

/-- The least magnitude that is rounded to infinity. -/
def leastInfinite : Nat := (Nat.pow 2 54 - 1) * Nat.pow 2 970

/-- The number of decimal digits of `leastInfinite`. -/
def longestWhole : Int := 309

/-- A whole number times a power of ten is too large for a float. -/
def isTooLarge (number : Nat) (exponent : Int) : Bool :=
  let whole := (Nat.toDigits 10 number).length + exponent
  if number = 0 then false
  else if whole ≠ longestWhole then longestWhole < whole
  else
    match exponent with
    | .ofNat places => leastInfinite ≤ number * Nat.pow 10 places
    | .negSucc places => leastInfinite * Nat.pow 10 (places + 1) ≤ number

end EventNet.Decimal
