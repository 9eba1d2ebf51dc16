import EventNet.Text.Quoted

/-!
# RON values and their written form

RON is an object notation with records and tuples in parentheses, lists in square
brackets, maps in braces, and bare words. A value is written over several lines with
four more spaces of indentation at every level and a comma behind every member. An
empty list or map stays on one line, and so does a tuple.
-/

set_option autoImplicit false

namespace EventNet

/-- A RON value. A number is kept as it is written. A raw word is marked as one. -/
inductive Ron where
  | word (name : String) (raw : Bool)
  | number (literal : String)
  | char (value : Char)
  | string (text : String)
  | bytes (values : List UInt8)
  | list (items : List Ron)
  | map (entries : List (Ron × Ron))
  | tuple (name : Option String) (items : List Ron)
  | record (name : Option String) (fields : List (String × Ron))

namespace Ron

/-- A bare word. -/
def plain (name : String) : Ron := .word name false

/-- A truth value. -/
def bool (value : Bool) : Ron := plain (if value then "true" else "false")

/-- A number wrapped as an identifier. -/
def id (number : Nat) : Ron := .tuple none [.number (toString number)]

/-- A list of values of one kind. -/
def listOf {α : Type} (encode : α → Ron) (values : List α) : Ron := .list (values.map encode)

/-! ## Writing -/

/-- A line end and the indentation of a level. -/
def newLine (depth : Nat) : List Char := '\n' :: List.replicate (4 * depth) ' '

/-- The name in front of a record or tuple. -/
def nameChars (name : Option String) : List Char := (name.getD "").toList

/-- A word, with its mark if it is raw. -/
def wordChars (name : String) (raw : Bool) : List Char :=
  if raw then 'r' :: '#' :: name.toList else name.toList

/-- A byte between quotation marks, in hexadecimal. -/
def byteChars (byte : UInt8) : List Char :=
  ['\\', 'x', Nat.digitChar (byte.toNat / 16), Nat.digitChar (byte.toNat % 16)]

mutual

/-- The written form of a value at a level of indentation. -/
def render (depth : Nat) : Ron → List Char
  | word name raw => wordChars name raw
  | number literal => literal.toList
  | char value => '\'' :: Text.escaped true value ++ ['\'']
  | string text => Text.quotedChars true text
  | bytes values => 'b' :: '"' :: values.flatMap byteChars ++ ['"']
  | list [] => ['[', ']']
  | list (item :: items) =>
    '[' :: renderItems (depth + 1) (item :: items) ++ newLine depth ++ [']']
  | map [] => ['{', '}']
  | map (entry :: entries) =>
    '{' :: renderEntries (depth + 1) (entry :: entries) ++ newLine depth ++ ['}']
  | tuple name [] => nameChars name ++ ['(', ')']
  | tuple name (item :: items) =>
    nameChars name ++ '(' :: render depth item ++ renderMore depth items ++ [')']
  | record name fields =>
    nameChars name ++ '(' :: renderFields (depth + 1) fields ++ newLine depth ++ [')']

/-- The items of a list. -/
def renderItems (depth : Nat) : List Ron → List Char
  | [] => []
  | item :: items => newLine depth ++ render depth item ++ ',' :: renderItems depth items

/-- The items of a tuple after the first. -/
def renderMore (depth : Nat) : List Ron → List Char
  | [] => []
  | item :: items => ',' :: ' ' :: render depth item ++ renderMore depth items

/-- The entries of a map. -/
def renderEntries (depth : Nat) : List (Ron × Ron) → List Char
  | [] => []
  | (key, value) :: entries =>
    newLine depth ++ render depth key ++ ':' :: ' ' :: render depth value ++
      ',' :: renderEntries depth entries

/-- The fields of a record. -/
def renderFields (depth : Nat) : List (String × Ron) → List Char
  | [] => []
  | (name, value) :: fields =>
    newLine depth ++ name.toList ++ ':' :: ' ' :: render depth value ++
      ',' :: renderFields depth fields

end

/-- The written form of a value. -/
def text (value : Ron) : String := String.ofList (value.render 0)

end Ron

end EventNet
