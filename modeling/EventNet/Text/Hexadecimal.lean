/-!
# Hexadecimal digits

Numbers in hexadecimal digits, as escapes in strings and literals of numbers spell them,
and the characters that such numbers name.
-/

set_option autoImplicit false

namespace EventNet.Text

/-- The value of a hexadecimal digit. -/
def hexValue? (c : Char) : Option Nat :=
  if '0' ≤ c ∧ c ≤ '9' then some (c.toNat - 48)
  else if 'a' ≤ c ∧ c ≤ 'f' then some (c.toNat - 87)
  else if 'A' ≤ c ∧ c ≤ 'F' then some (c.toNat - 55)
  else none

/-- The number that digits spell in a base up to sixteen. -/
def numberInBase? (base : Nat) (digits : List Char) : Option Nat :=
  digits.foldlM (fun number digit => do
    let value ← hexValue? digit
    if value < base then some (number * base + value) else none) 0

/-- The number that hexadecimal digits spell. -/
def hexNumber? (digits : List Char) : Option Nat := numberInBase? 16 digits

/-- The character with a code point. -/
def charOfCode? (code : Nat) : Option Char :=
  if code < 0xD800 ∨ (0xDFFF < code ∧ code < 0x110000) then some (Char.ofNat code) else none

end EventNet.Text
