import EventNet.Decimal.Binary

/-!
# The shortest decimal of a float

Of all decimals that read back as a float, the ones with the fewest digits are looked
at, and of these the nearest to the exact value is taken; if two are equally near, the
one with an even last digit.

The decimals that read back as a float are those between the midpoints to its two
neighbours. The midpoints themselves belong to them if the mantissa is even.
-/

set_option autoImplicit false

namespace EventNet.Decimal

/-- A positive decimal: `digits` times ten to the power `exponent`. -/
structure Scientific where
  digits : Nat
  exponent : Int

/-- The numbers that read back as a float, and its exact value, in quarters of its last
binary place. -/
structure Interval where
  lower : Nat
  exact : Nat
  upper : Nat
  closed : Bool
  exponent : Nat

/-- The interval of a float other than zero. Below a power of two the neighbours lie
closer. -/
def Binary.interval (binary : Binary) : Interval :=
  let exact := 4 * binary.mantissa
  let narrow := binary.mantissa == Nat.pow 2 52 && binary.exponent != 0
  { lower := if narrow then exact - 1 else exact - 2
    exact
    upper := exact + 2
    closed := binary.mantissa % 2 == 0
    exponent := binary.exponent }

/-- `count` times ten to the power `power`, compared with `quarters` of the last place. -/
def compareDecimal (interval : Interval) (power : Int) (count quarters : Nat) : Ordering :=
  let right := (Binary.quarters interval.exponent quarters).numerator
  let scale := Nat.pow 2 1076
  match power with
  | .ofNat up => compare (count * Nat.pow 10 up * scale) right
  | .negSucc down => compare (count * scale) (right * Nat.pow 10 (down + 1))

/-- `count` times ten to the power `power` reads back as the float. -/
def readsBack (interval : Interval) (power : Int) (count : Nat) : Bool :=
  let fromBelow := compareDecimal interval power count interval.lower
  let fromAbove := compareDecimal interval power count interval.upper
  if interval.closed then fromBelow != .lt && fromAbove != .gt
  else fromBelow == .gt && fromAbove == .lt

/-- The exact value divided by ten to the power `power`, rounded down. -/
def floorAt (interval : Interval) (power : Int) : Nat :=
  let exact := Binary.quarters interval.exponent interval.exact
  match power with
  | .ofNat up => exact.numerator / (exact.denominator * Nat.pow 10 up)
  | .negSucc down => exact.numerator * Nat.pow 10 (down + 1) / exact.denominator

/-- The next smaller multiple is the nearer one; of two equally near ones, the even one. -/
def prefersBelow (interval : Interval) (power : Int) (below : Nat) : Bool :=
  match compareDecimal interval power (2 * below + 1) (2 * interval.exact) with
  | .gt => true
  | .lt => false
  | .eq => below % 2 == 0

/-- The multiple of ten to the power `power` that reads back and is nearest. -/
def nearestAt? (interval : Interval) (power : Int) : Option Nat :=
  let below := floorAt interval power
  match readsBack interval power below, readsBack interval power (below + 1) with
  | true, true => some (if prefersBelow interval power below then below else below + 1)
  | true, false => some below
  | false, true => some (below + 1)
  | false, false => none

/-- The power of ten of the first digit of the exact value. -/
def leadingPower (interval : Interval) : Int :=
  let exact := Binary.quarters interval.exponent interval.exact
  let whole := exact.numerator / exact.denominator
  if whole != 0 then ((toString whole).length : Int) - 1
  else
    let places := (toString (exact.denominator / exact.numerator)).length
    if exact.denominator ≤ exact.numerator * Nat.pow 10 (places - 1) then -((places : Int) - 1)
    else -(places : Int)

/-- The same decimal with one final zero less, if it has one. Rounding up to the next
power of ten is the only way in which a grid gives a final zero. -/
def Scientific.withoutFinalZero (decimal : Scientific) : Scientific :=
  if decimal.digits % 10 == 0 then
    { digits := decimal.digits / 10, exponent := decimal.exponent + 1 }
  else decimal

/-- Tries finer and finer grids. Seventeen digits always suffice. -/
def shortestFrom (interval : Interval) (power : Int) : Nat → Scientific
  | 0 => { digits := floorAt interval power, exponent := power }
  | grids + 1 =>
    match nearestAt? interval power with
    | some digits => Scientific.withoutFinalZero { digits, exponent := power }
    | none => shortestFrom interval (power - 1) grids

/-- The shortest decimal of a float other than zero. -/
def Binary.shortest (binary : Binary) : Scientific :=
  let interval := binary.interval
  shortestFrom interval (leadingPower interval) 17

/-- How the digits of a float are laid out. -/
structure Layout where
  /-- The most digits before the point in positional notation. -/
  wholePlaces : Nat
  /-- The most zeros between the point and the first digit in positional notation. -/
  leadingZeros : Nat

/-- Numbers in documents are positional up to sixteen digits before the point and down to
four zeros behind it; outside that range they have an exponent. -/
def Layout.document : Layout := { wholePlaces := 16, leadingZeros := 4 }

/-- So many zeros. -/
def zeros (count : Nat) : String := String.ofList (List.replicate count '0')

/-- The digits of a decimal, with a point or an exponent. Exponents have a sign. -/
def Layout.text (layout : Layout) (decimal : Scientific) : String :=
  let digits := (toString decimal.digits).toList
  let point : Int := digits.length + decimal.exponent
  if 0 ≤ decimal.exponent && point ≤ layout.wholePlaces then
    String.ofList digits ++ zeros decimal.exponent.toNat ++ ".0"
  else if 0 < point && point ≤ layout.wholePlaces then
    String.ofList (digits.take point.toNat) ++ "." ++ String.ofList (digits.drop point.toNat)
  else if point ≤ 0 && -(layout.leadingZeros : Int) ≤ point then
    "0." ++ zeros (-point).toNat ++ String.ofList digits
  else
    let fraction := digits.drop 1
    String.ofList (digits.take 1) ++
      (if fraction.isEmpty then "" else "." ++ String.ofList fraction) ++
      (if 0 < point then "e+" else "e") ++ toString (point - 1)

/-- The shortest text that reads back as the float, always with a point or an exponent. -/
def shortest (value : Float) : String :=
  match Binary.ofFloat? value with
  | none => "null"
  | some binary =>
    let sign := if binary.negative then "-" else ""
    if binary.mantissa == 0 then sign ++ "0.0"
    else
      let decimal := binary.shortest
      sign ++ Layout.document.text decimal

end EventNet.Decimal
