import EventNet.Text.Hexadecimal

/-!
# Strings of TOML

There are four kinds of strings: between quotation marks with escapes or between
apostrophes without, and either on one line or between three marks over several lines.
A string over several lines does not count a line end right behind its first marks. In
one with escapes a backslash at the end of a line removes the line end and all blank
characters behind it.
-/

set_option autoImplicit false

namespace EventNet.Toml

/-- A kind of strings. -/
structure StringKind where
  mark : Char
  hasEscapes : Bool
  hasLines : Bool

/-- A blank character inside a line. -/
def isIndent (c : Char) : Bool := c == ' ' || c == '\t'

/-- What follows a line end at the start of a text. -/
def afterNewline? : List Char → Option (List Char)
  | '\n' :: rest => some rest
  | '\r' :: '\n' :: rest => some rest
  | _ => none

/-- The text without blank characters and line ends at its start. -/
def skipBlank : List Char → List Char
  | ' ' :: rest => skipBlank rest
  | '\t' :: rest => skipBlank rest
  | '\n' :: rest => skipBlank rest
  | '\r' :: '\n' :: rest => skipBlank rest
  | text => text

/-- A character that must not stand for itself. -/
def isControl (c : Char) : Bool := (c.toNat < 0x20 && c != '\t') || c.toNat == 0x7F

/-- The character of an escape, from behind its backslash. -/
def escape? : List Char → Option (Char × List Char)
  | 'b' :: rest => some ('\x08', rest)
  | 't' :: rest => some ('\t', rest)
  | 'n' :: rest => some ('\n', rest)
  | 'f' :: rest => some ('\x0c', rest)
  | 'r' :: rest => some ('\r', rest)
  | '"' :: rest => some ('"', rest)
  | '\\' :: rest => some ('\\', rest)
  | 'e' :: rest => some ('\x1b', rest)
  | 'x' :: rest => coded? 2 rest
  | 'u' :: rest => coded? 4 rest
  | 'U' :: rest => coded? 8 rest
  | _ => none
where
  /-- The character whose code point so many digits spell. -/
  coded? (count : Nat) (text : List Char) : Option (Char × List Char) := do
    let digits := text.take count
    if digits.length < count then none
    else return (← Text.charOfCode? (← Text.hexNumber? digits), text.drop count)

namespace StringKind

/-- The marks that still belong to the inside of a string and what follows it, at the end
of a string. Up to two marks may stand before the three that end a string over several
lines. -/
def close? (kind : StringKind) (text : List Char) : Option (List Char × List Char) :=
  let count := (text.takeWhile (· == kind.mark)).length
  if kind.hasLines then
    if count < 3 then none
    else
      let kept := min (count - 3) 2
      some (List.replicate kept kind.mark, text.drop (kept + 3))
  else if count = 0 then none
  else some ([], text.drop 1)

/-- What an escape stands for, from behind its backslash. -/
def escaped? (kind : StringKind) (text : List Char) : Option (List Char × List Char) :=
  match kind.hasLines, afterNewline? (text.dropWhile isIndent) with
  | true, some rest => some ([], skipBlank rest)
  | _, _ => (escape? text).map fun (c, rest) => ([c], rest)

/-- A character may stand for itself, before the rest of the text. -/
def admits (kind : StringKind) (c : Char) (rest : List Char) : Bool :=
  !isControl c || (kind.hasLines && (afterNewline? (c :: rest)).isSome)

/-- The inside of a string and what follows it. -/
def inside? (kind : StringKind) (text : List Char) : Option (List Char × List Char) :=
  match kind.close? text with
  | some ending => some ending
  | none =>
    match text with
    | [] => none
    | c :: rest =>
      if kind.hasEscapes && c == '\\' then
        match kind.escaped? rest with
        | none => none
        | some (value, after) =>
          if after.length ≤ rest.length then
            (kind.inside? after).map fun (body, rest) => (value ++ body, rest)
          else none
      else if kind.admits c rest then
        (kind.inside? rest).map fun (body, rest) => (c :: body, rest)
      else none
  termination_by text.length

end StringKind

/-- A string on one line. -/
def lineString? (text : List Char) : Option (String × List Char) :=
  let ofMark (mark : Char) (rest : List Char) : Option (String × List Char) :=
    let kind : StringKind := { mark, hasEscapes := mark == '"', hasLines := false }
    (kind.inside? rest).map fun (body, rest) => (String.ofList body, rest)
  match text with
  | '"' :: rest => ofMark '"' rest
  | '\'' :: rest => ofMark '\'' rest
  | _ => none

/-- A string of any kind. -/
def string? (text : List Char) : Option (String × List Char) :=
  let ofMarks (mark : Char) (rest : List Char) : Option (String × List Char) :=
    let kind : StringKind := { mark, hasEscapes := mark == '"', hasLines := true }
    (kind.inside? ((afterNewline? rest).getD rest)).map fun (body, rest) =>
      (String.ofList body, rest)
  match text with
  | '"' :: '"' :: '"' :: rest => ofMarks '"' rest
  | '\'' :: '\'' :: '\'' :: rest => ofMarks '\'' rest
  | _ => lineString? text

end EventNet.Toml
