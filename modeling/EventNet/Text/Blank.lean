/-!
# Blank characters

The Unicode property `White_Space`, and the removal of blank characters at both
ends of a text. Labels are trimmed in this sense before they enter a net.

The layout between the words of the net notation is a narrower class and has its
own definition beside the notation.
-/

set_option autoImplicit false

namespace EventNet.Text

/-- A character with the Unicode property `White_Space`. -/
def isBlank (c : Char) : Bool :=
  let code := c.toNat
  (0x09 ≤ code && code ≤ 0x0D) || code == 0x20 || code == 0x85 || code == 0xA0 ||
    code == 0x1680 || (0x2000 ≤ code && code ≤ 0x200A) || code == 0x2028 || code == 0x2029 ||
    code == 0x202F || code == 0x205F || code == 0x3000

/-- The characters that remain when the blank ones at both ends are dropped. -/
def trimChars (text : List Char) : List Char :=
  ((text.dropWhile isBlank).reverse.dropWhile isBlank).reverse

/-- The text without the blank characters at its two ends. -/
def trim (text : String) : String :=
  String.ofList (trimChars text.toList)

end EventNet.Text
