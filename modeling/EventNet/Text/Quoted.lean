import EventNet.Text.Visible

/-!
# Texts between quotation marks

A text is shown between quotation marks so that it can be read back: quotation marks
and backslashes are escaped, the common control characters have letters, and every
other character without a visible form of its own is written by code point. Whether
apostrophes are escaped as well depends on where the text stands.
-/

set_option autoImplicit false

namespace EventNet.Text

/-- A character by its code point in hexadecimal. -/
def byCodePoint (c : Char) : List Char :=
  ['\\', 'u', '{'] ++ Nat.toDigits 16 c.toNat ++ ['}']

/-- A character between quotation marks. -/
def escaped (apostrophes : Bool) (c : Char) : List Char :=
  if c = '\x00' then ['\\', '0']
  else if c = '\t' then ['\\', 't']
  else if c = '\r' then ['\\', 'r']
  else if c = '\n' then ['\\', 'n']
  else if c = '"' then ['\\', '"']
  else if c = '\\' then ['\\', '\\']
  else if c = '\'' then (if apostrophes then ['\\', '\''] else ['\''])
  else if isVisible c then [c]
  else byCodePoint c

/-- A text between quotation marks, as characters. -/
def quotedChars (apostrophes : Bool) (text : String) : List Char :=
  '"' :: text.toList.flatMap (escaped apostrophes) ++ ['"']

/-- A text between quotation marks for inspection. Apostrophes stand for themselves. -/
def quoted (text : String) : String := String.ofList (quotedChars false text)

end EventNet.Text
