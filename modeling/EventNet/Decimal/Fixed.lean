import EventNet.Decimal.Binary

/-!
# Decimals with a fixed number of places

The exact value of the float is rounded to the given number of places, a half to the
even neighbour.
-/

set_option autoImplicit false

namespace EventNet.Decimal

/-- The digits of a number, filled up with zeros on the left to a width. -/
def zeroFilled (width number : Nat) : String :=
  let digits := toString number
  String.ofList (List.replicate (width - digits.length) '0') ++ digits

/-- A float with `places` digits behind the point. -/
def fixed (places : Nat) (value : Float) : String :=
  match Binary.ofFloat? value with
  | none => ""
  | some binary =>
    let exact := binary.magnitude
    let scaled := roundHalfEven (exact.numerator * Nat.pow 10 places) exact.denominator
    let sign := if binary.negative then "-" else ""
    sign ++ toString (scaled / Nat.pow 10 places) ++ "." ++
      zeroFilled places (scaled % Nat.pow 10 places)

end EventNet.Decimal
