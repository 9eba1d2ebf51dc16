/-!
# JSON values and their written form

A value is written over several lines, with two more spaces of indentation at every
level; an empty array or object stays on one line. Members keep their order. In a
string only quotation marks, backslashes and control characters are escaped.
-/

set_option autoImplicit false

namespace EventNet

/-- A JSON value. A number is kept as it is written. -/
inductive Json where
  | null
  | bool (value : Bool)
  | number (literal : String)
  | string (text : String)
  | array (items : List Json)
  | object (fields : List (String × Json))

namespace Json

/-- A natural number. -/
def nat (number : Nat) : Json := .number (toString number)

/-- A value, or null. -/
def ofOption {α : Type} (encode : α → Json) : Option α → Json
  | none => .null
  | some value => encode value

/-- An array of values of one kind. -/
def list {α : Type} (encode : α → Json) (values : List α) : Json := .array (values.map encode)

/-- A digit of a code point written in hexadecimal. -/
def hexDigit (digit : Nat) : Char := Nat.digitChar digit

/-- A character inside quotation marks. -/
def escaped (c : Char) : List Char :=
  if c = '"' then ['\\', '"']
  else if c = '\\' then ['\\', '\\']
  else if c = '\x08' then ['\\', 'b']
  else if c = '\x0c' then ['\\', 'f']
  else if c = '\n' then ['\\', 'n']
  else if c = '\r' then ['\\', 'r']
  else if c = '\t' then ['\\', 't']
  else if c.toNat < 0x20 then
    ['\\', 'u', '0', '0', hexDigit (c.toNat / 16), hexDigit (c.toNat % 16)]
  else [c]

/-- A text in quotation marks. -/
def quoted (text : String) : List Char := '"' :: text.toList.flatMap escaped ++ ['"']

/-- A line end and the indentation of a level. -/
def newLine (depth : Nat) : List Char := '\n' :: List.replicate (2 * depth) ' '

mutual

/-- The written form of a value at a level of indentation. -/
def render (depth : Nat) : Json → List Char
  | null => ['n', 'u', 'l', 'l']
  | bool true => ['t', 'r', 'u', 'e']
  | bool false => ['f', 'a', 'l', 's', 'e']
  | number literal => literal.toList
  | string text => quoted text
  | array [] => ['[', ']']
  | array (item :: items) =>
    '[' :: newLine (depth + 1) ++ render (depth + 1) item ++ renderItems (depth + 1) items ++
      newLine depth ++ [']']
  | object [] => ['{', '}']
  | object ((name, value) :: fields) =>
    '{' :: newLine (depth + 1) ++ quoted name ++ [':', ' '] ++ render (depth + 1) value ++
      renderFields (depth + 1) fields ++ newLine depth ++ ['}']

/-- The items of an array after the first. -/
def renderItems (depth : Nat) : List Json → List Char
  | [] => []
  | item :: items => ',' :: newLine depth ++ render depth item ++ renderItems depth items

/-- The members of an object after the first. -/
def renderFields (depth : Nat) : List (String × Json) → List Char
  | [] => []
  | (name, value) :: fields =>
    ',' :: newLine depth ++ quoted name ++ [':', ' '] ++ render depth value ++
      renderFields depth fields

end

/-- The written form of a value. -/
def text (value : Json) : String := String.ofList (value.render 0)

end Json

end EventNet
