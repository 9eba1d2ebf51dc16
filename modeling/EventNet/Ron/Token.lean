import EventNet.Ron.Escape
import EventNet.Ron.Number
import EventNet.Text.Identifier

/-!
# The words of a RON text

A text is cut into marks, bare words, numbers, characters, strings and strings of bytes.
Between them there may be blank characters and comments: to the end of the line, or
between delimiters that nest. Cutting stops at the first thing that is none of these.

A bare word is an identifier, or any letters, digits and a few signs behind `r#`, which
marks the word as raw. A raw word never means anything special.
-/

set_option autoImplicit false

namespace EventNet.Ron

/-- A word of a text. -/
inductive Token where
  | openRound
  | closeRound
  | openSquare
  | closeSquare
  | openCurly
  | closeCurly
  | comma
  | colon
  /-- A number sign. -/
  | hash
  /-- An exclamation mark. -/
  | bang
  | word (name : String) (raw : Bool)
  | number (literal : String)
  | char (value : Char)
  | string (text : String)
  | bytes (values : List UInt8)
  /-- Something that is no word. -/
  | bad

/-! ## Layout -/

/-- A character that may stand between words. -/
def isSpace (c : Char) : Bool :=
  let code := c.toNat
  (0x09 ≤ code && code ≤ 0x0D) || code == 0x20 || code == 0x85 || code == 0x200E ||
    code == 0x200F || code == 0x2028 || code == 0x2029

/-- What follows the end of a comment between delimiters, inside `depth` others. -/
def afterComment? (depth : Nat) : List Char → Option (List Char)
  | [] => none
  | '*' :: '/' :: rest =>
    match depth with
    | 0 => some rest
    | outer + 1 => afterComment? outer rest
  | '/' :: '*' :: rest => afterComment? (depth + 1) rest
  | _ :: rest => afterComment? depth rest

/-- What follows a line. -/
def afterLine : List Char → List Char
  | [] => []
  | '\n' :: rest => rest
  | _ :: rest => afterLine rest

/-! ## Strings -/

/-- A string of bytes as a word, from behind its first quotation mark. -/
def bytesToken (text : List Char) : Token × List Char :=
  match inside? text with
  | none => (.bad, [])
  | some (body, rest) =>
    match unescapeBytes? body with
    | none => (.bad, [])
    | some values => (.bytes values, rest)

/-- A string as a word, from behind its first quotation mark. -/
def stringToken (text : List Char) : Token × List Char :=
  match inside? text with
  | none => (.bad, [])
  | some (body, rest) =>
    match unescapeText? body with
    | none => (.bad, [])
    | some value => (.string (String.ofList value), rest)

/-- A character as a word, from behind its first apostrophe. -/
def charToken (text : List Char) : Token × List Char :=
  match char? text with
  | none => (.bad, [])
  | some (value, rest) => (.char value, rest)

/-- A raw string as a word, from behind its letter. -/
def rawToken (make : List Char → Token) (text : List Char) : Token × List Char :=
  match raw? text with
  | none => (.bad, [])
  | some (body, rest) => (make body, rest)

/-! ## Words and numbers -/

/-- A character with which a bare word starts. -/
def startsWord (c : Char) : Bool := c == '_' || Text.startsIdentifier c

/-- A character of a word that is marked as raw. -/
def isRawWordChar (c : Char) : Bool :=
  Text.isInIdentifier c || c == '.' || c == '+' || c == '-'

/-- A bare word. -/
def wordToken (text : List Char) : Token × List Char :=
  (.word (String.ofList (text.takeWhile Text.isInIdentifier)) false,
    text.dropWhile Text.isInIdentifier)

/-- A word that is marked as raw, from behind the mark. -/
def rawWordToken (text : List Char) : Token × List Char :=
  match text.takeWhile isRawWordChar with
  | [] => (.bad, [])
  | name => (.word (String.ofList name) true, text.dropWhile isRawWordChar)

/-- The characters of a number: letters, digits, low lines and points, and a sign in front
or behind the letter of an exponent. -/
def numberChars (signAllowed : Bool) : List Char → List Char
  | [] => []
  | c :: rest =>
    if c.isAlphanum || c == '_' || c == '.' then c :: numberChars (isExponentMark c) rest
    else if signAllowed && (c == '+' || c == '-') then c :: numberChars false rest
    else []

/-- A number as a word. -/
def numberToken (text : List Char) : Token × List Char :=
  let literal := numberChars true text
  if isNumber literal then (.number (String.ofList literal), text.drop literal.length)
  else (.bad, [])

/-- A byte as a word, which is a number; the text starts with its letter. -/
def byteToken (text : List Char) : Token × List Char :=
  match afterByte? (text.drop 2) with
  | none => (.bad, [])
  | some rest => (.number (String.ofList (text.take (text.length - rest.length))), rest)

/-- What starts with the letter `r`: a raw string, a raw word or a bare word. -/
def tokenOfR (text : List Char) : Token × List Char :=
  match text.drop 1 with
  | '#' :: rest =>
    if rest.head?.any isRawWordChar then rawWordToken rest
    else rawToken (fun body => .string (String.ofList body)) ('#' :: rest)
  | '"' :: rest => rawToken (fun body => .string (String.ofList body)) ('"' :: rest)
  | _ => wordToken text

/-- What starts with the letter `b`: a byte, a string of bytes or a bare word. -/
def tokenOfB (text : List Char) : Token × List Char :=
  let bytesOf (body : List Char) : Token := .bytes (body.flatMap String.utf8EncodeChar)
  match text.drop 1 with
  | '\'' :: _ => byteToken text
  | '"' :: rest => bytesToken rest
  | 'r' :: '"' :: rest => rawToken bytesOf ('"' :: rest)
  | 'r' :: '#' :: rest => rawToken bytesOf ('#' :: rest)
  | _ => wordToken text

/-- The word at the start of a text, and what follows it. -/
def firstToken (text : List Char) : Token × List Char :=
  match text with
  | '(' :: rest => (.openRound, rest)
  | ')' :: rest => (.closeRound, rest)
  | '[' :: rest => (.openSquare, rest)
  | ']' :: rest => (.closeSquare, rest)
  | '{' :: rest => (.openCurly, rest)
  | '}' :: rest => (.closeCurly, rest)
  | ',' :: rest => (.comma, rest)
  | ':' :: rest => (.colon, rest)
  | '#' :: rest => (.hash, rest)
  | '!' :: rest => (.bang, rest)
  | '"' :: rest => stringToken rest
  | '\'' :: rest => charToken rest
  | 'r' :: rest => tokenOfR ('r' :: rest)
  | 'b' :: rest => tokenOfB ('b' :: rest)
  | c :: _ =>
    if c.isDigit || c == '+' || c == '-' || c == '.' then numberToken text
    else if startsWord c then wordToken text
    else (.bad, [])
  | [] => (.bad, [])

/-- The text behind blank characters and a comment at its start; there is none if a comment
does not end. -/
def skipOne? : List Char → Option (List Char)
  | '/' :: '/' :: rest => some (afterLine rest)
  | '/' :: '*' :: rest => afterComment? 0 rest
  | c :: rest => if isSpace c then some rest else none
  | [] => none

/-- The words of a text. Every word and every piece of layout shortens the text. -/
def tokens (text : List Char) : List Token :=
  if text.isEmpty then []
  else
    match skipOne? text with
    | some rest => if rest.length < text.length then tokens rest else [.bad]
    | none =>
      let word := firstToken text
      if word.2.length < text.length then word.1 :: tokens word.2 else [.bad]
  termination_by text.length

end EventNet.Ron
