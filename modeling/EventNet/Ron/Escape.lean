import EventNet.Text.Hexadecimal

/-!
# Texts, characters and bytes between quotation marks

A text is written between quotation marks. A backslash announces an escape: one of a few
letters, a byte in two hexadecimal digits, or a code point in braces. Several bytes one
after another may spell one character of a text; a character by itself has one byte at
most. Strings of bytes are written like texts, and every byte counts for itself.

A raw text has no escapes. It has number signs around its quotation marks, so that fewer
of them may stand inside.
-/

set_option autoImplicit false

namespace EventNet.Ron

/-! ## Escapes -/

/-- What a letter behind a backslash stands for. -/
def letterEscape? : Char → Option Char
  | '\'' => some '\''
  | '"' => some '"'
  | '\\' => some '\\'
  | 'n' => some '\n'
  | 'r' => some '\r'
  | 't' => some '\t'
  | '0' => some '\x00'
  | _ => none

/-- The byte that two hexadecimal digits spell. -/
def byteEscape? : List Char → Option (UInt8 × List Char)
  | high :: low :: rest =>
    (Text.hexNumber? [high, low]).map fun byte => (byte.toUInt8, rest)
  | _ => none

/-- The character with a code point in braces. -/
def codePointEscape? : List Char → Option (Char × List Char)
  | '{' :: rest => do
    let digits := rest.takeWhile (· != '}')
    if digits.isEmpty || 6 < digits.length then none
    else
      match rest.dropWhile (· != '}') with
      | [] => none
      | _ :: rest => return (← Text.charOfCode? (← Text.hexNumber? digits), rest)
  | _ => none

/-- The character that up to four bytes spell, some of which are read from further escapes. -/
def fromBytes? (bytes : List UInt8) : Nat → List Char → Option (Char × List Char)
  | more, text =>
    match (String.fromUTF8? ⟨bytes.toArray⟩).map String.toList with
    | some [c] => some (c, text)
    | _ =>
      match more, text with
      | more + 1, '\\' :: 'x' :: rest =>
        match byteEscape? rest with
        | some (byte, rest) => fromBytes? (bytes ++ [byte]) more rest
        | none => none
      | _, _ => none

/-- The character of an escape in a text, from behind the backslash. -/
def textEscape? : List Char → Option (Char × List Char)
  | 'x' :: rest => do
    let (byte, rest) ← byteEscape? rest
    fromBytes? [byte] 3 rest
  | 'u' :: rest => codePointEscape? rest
  | c :: rest => (letterEscape? c).map fun value => (value, rest)
  | [] => none

/-- The character of an escape that stands for a character alone. -/
def charEscape? : List Char → Option (Char × List Char)
  | 'x' :: rest => do
    let (byte, rest) ← byteEscape? rest
    if byte < 0x80 then some (Char.ofNat byte.toNat, rest) else none
  | text => textEscape? text

/-- The bytes of an escape in a string of bytes. -/
def bytesEscape? : List Char → Option (List UInt8 × List Char)
  | 'x' :: rest => (byteEscape? rest).map fun (byte, rest) => ([byte], rest)
  | text => (textEscape? text).map fun (c, rest) => (String.utf8EncodeChar c, rest)

/-- What the inside of a string stands for, where `escape?` reads an escape and `plain`
says what any other character stands for. -/
def unescape? {α : Type} (escape? : List Char → Option (List α × List Char))
    (plain : Char → List α) (text : List Char) : Option (List α) :=
  match text with
  | [] => some []
  | c :: rest =>
    if c = '\\' then
      match escape? rest with
      | none => none
      | some (values, after) =>
        if after.length ≤ rest.length then (unescape? escape? plain after).map (values ++ ·)
        else none
    else (unescape? escape? plain rest).map (plain c ++ ·)
  termination_by text.length

/-- The text that the inside of a string stands for. -/
def unescapeText? : List Char → Option (List Char) :=
  unescape? (fun text => (textEscape? text).map fun (c, rest) => ([c], rest)) fun c => [c]

/-- The bytes that the inside of a string of bytes stands for. -/
def unescapeBytes? : List Char → Option (List UInt8) :=
  unescape? bytesEscape? String.utf8EncodeChar

/-! ## Delimiters -/

/-- The inside of a string up to its quotation mark, as it is written, and what follows it. -/
def inside? : List Char → Option (List Char × List Char)
  | [] => none
  | '"' :: rest => some ([], rest)
  | '\\' :: c :: rest => (inside? rest).map fun (body, rest) => ('\\' :: c :: body, rest)
  | c :: rest => (inside? rest).map fun (body, rest) => (c :: body, rest)

/-- What follows an apostrophe. -/
def afterApostrophe? : List Char → Option (List Char)
  | '\'' :: rest => some rest
  | _ => none

/-- A character, from behind its first apostrophe. The character may be an apostrophe too. -/
def char? : List Char → Option (Char × List Char)
  | '\\' :: text => do
    let (value, rest) ← charEscape? text
    return (value, ← afterApostrophe? rest)
  | c :: text => (afterApostrophe? text).map fun rest => (c, rest)
  | [] => none

/-- What follows a byte, from behind its first apostrophe. -/
def afterByte? : List Char → Option (List Char)
  | '\\' :: 'x' :: text => do afterApostrophe? (← byteEscape? text).2
  | '\\' :: c :: text => if (letterEscape? c).isSome then afterApostrophe? text else none
  | c :: text => if c.toNat < 128 then afterApostrophe? text else none
  | [] => none

/-- The inside of a raw string, which ends at a quotation mark with so many number signs. -/
def rawInside? (signs : Nat) : List Char → Option (List Char × List Char)
  | [] => none
  | c :: rest =>
    if c = '"' ∧ (rest.take signs).length = signs ∧ (rest.take signs).all (· == '#') then
      some ([], rest.drop signs)
    else (rawInside? signs rest).map fun (body, rest) => (c :: body, rest)

/-- A raw string, from behind its letter. -/
def raw? (text : List Char) : Option (List Char × List Char) :=
  let signs := (text.takeWhile (· == '#')).length
  match text.drop signs with
  | '"' :: inner => rawInside? signs inner
  | _ => none

end EventNet.Ron
