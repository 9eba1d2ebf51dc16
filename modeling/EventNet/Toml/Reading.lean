import EventNet.Reader
import EventNet.Toml.Scalar
import EventNet.Toml.Text

/-!
# Reading TOML documents

A document is a sequence of lines: assignments, headers, and lines with a comment at
most. Inside arrays and inline tables there may be line ends and comments between all
parts but those of a dotted key, and a comma behind the last member. Arrays and inline
tables may be nested eighty deep, and a dotted key may have eighty parts.
-/

set_option autoImplicit false

namespace EventNet.Toml

/-! ## Layout -/

/-- The text without blank characters at its start. -/
def skipIndent (text : List Char) : List Char := text.dropWhile isIndent

/-- What follows a comment, if there is one. Control characters must not stand in it. -/
def afterComment? : List Char → Option (List Char)
  | '#' :: rest =>
    let after := rest.dropWhile fun c => !isControl c
    if after.isEmpty || (afterNewline? after).isSome then some after else none
  | text => some text

/-- What follows the end of a line: blank characters, perhaps a comment, and a line end. -/
def afterLine? (text : List Char) : Option (List Char) := do
  afterNewline? (← afterComment? (skipIndent text))

/-- The text without blank characters, line ends and comments at its start. -/
def skipLines (text : List Char) : List Char :=
  skipIndent (Reader.many (fun text => (afterLine? text).map fun rest => ((), rest)) text).2

/-- Reads a mark. -/
def mark (c : Char) : Reader Unit := fun text => (behind? c text).map fun rest => ((), rest)

/-- Reads items with commas between them. -/
def commaSeparated {α : Type} (item : Reader α) (text : List Char) : List α × List Char :=
  let padded : Reader α := fun text => do
    let (value, rest) ← item (skipLines text)
    return (value, skipLines rest)
  match padded text with
  | none => ([], skipLines text)
  | some (first, rest) =>
    let further : Reader α := fun text => do
      let (_, rest) ← mark ',' text
      padded rest
    let (more, rest) := Reader.many further rest
    (first :: more, rest)

/-- Reads items up to a closing mark, with commas between them and perhaps behind them. -/
def enclosed {α : Type} (closing : Char) (item : Reader α) : Reader (List α) := fun text => do
  let (items, rest) := commaSeparated item text
  let rest := if items.isEmpty then rest else ((behind? ',' rest).map skipLines).getD rest
  let (_, rest) ← mark closing rest
  return (items, rest)

/-! ## Keys -/

/-- A character of a bare key. -/
def isKeyChar (c : Char) : Bool := c.isAlphanum || c == '_' || c == '-'

/-- A key without points. -/
def simpleKey : Reader String := fun text =>
  match text.takeWhile isKeyChar with
  | [] => lineString? text
  | name => some (String.ofList name, text.dropWhile isKeyChar)

/-- A key, with the blank characters behind it. -/
def paddedKey : Reader String := fun text => do
  let (key, rest) ← simpleKey (skipIndent text)
  return (key, skipIndent rest)

/-- How many parts a dotted key may have. -/
def maxParts : Nat := 80

/-- A dotted key, with the blank characters around it. -/
def path : Reader (List String) := fun text => do
  let (first, rest) ← paddedKey text
  let further : Reader String := fun text => do
    let (_, rest) ← mark '.' text
    paddedKey rest
  let (more, rest) := Reader.many further rest
  if more.length < maxParts then return (first :: more, rest) else none

/-! ## Values -/

/-- An assignment, where `value` reads its right side and `skip` passes over the layout
around the sign. -/
def assignment (skip : List Char → List Char) (value : Reader Toml) :
    Reader (List String × Toml) := fun text => do
  let (key, rest) ← path text
  let (_, rest) ← mark '=' (skip rest)
  let (result, rest) ← value (skip rest)
  return ((key, result), rest)

/-- A string or a bare scalar. -/
def simpleValue : Reader Toml := fun text =>
  match string? text with
  | some (value, rest) => some (.string value, rest)
  | none =>
    let chars := scalarChars text
    (scalar? chars).map fun value => (value, text.drop chars.length)

/-- An array, from behind its bracket. -/
def arrayOf (value : Reader Toml) : Reader Toml := fun text => do
  let (items, rest) ← enclosed ']' value text
  return (.array items, rest)

/-- An inline table, from behind its brace. -/
def tableOf (value : Reader Toml) : Reader Toml := fun text => do
  let (assignments, rest) ← enclosed '}' (assignment skipLines value) text
  let entries ← assignments.foldlM (fun entries (key, value) => assign? value key entries) []
  return (.table .inline entries, rest)

/-- A value in which others are nested so many deep. -/
def value : (depth : Nat) → Reader Toml
  | 0 => simpleValue
  | depth + 1 => fun text =>
    match text with
    | '[' :: rest => arrayOf (value depth) rest
    | '{' :: rest => tableOf (value depth) rest
    | _ => simpleValue text

/-- How deep arrays and inline tables may be nested. -/
def maxDepth : Nat := 80

/-! ## Lines -/

/-- A line of a document. -/
inductive Line where
  | blank
  | assignment (path : List String) (value : Toml)
  | header (path : List String)
  | elementHeader (path : List String)

/-- What a line says, without its end. -/
def lineContent (text : List Char) : Option (Line × List Char) :=
  match skipIndent text with
  | [] => some (.blank, [])
  | '#' :: rest => some (.blank, '#' :: rest)
  | '[' :: '[' :: rest => do
    let (path, rest) ← path rest
    let rest ← behind? ']' (← behind? ']' rest)
    return (.elementHeader path, rest)
  | '[' :: rest => do
    let (path, rest) ← path rest
    return (.header path, ← behind? ']' rest)
  | rest =>
    if (afterNewline? rest).isSome then some (.blank, rest)
    else do
      let ((path, value), rest) ← assignment skipIndent (value maxDepth) rest
      return (.assignment path value, rest)

/-- The lines of a document. -/
def lines? (text : List Char) : Option (List Line) :=
  match lineContent text with
  | none => none
  | some (line, rest) =>
    match afterComment? (skipIndent rest) with
    | none => none
    | some [] => some [line]
    | some (c :: rest) =>
      match afterNewline? (c :: rest) with
      | none => none
      | some rest => if rest.length < text.length then (lines? rest).map (line :: ·) else none
  termination_by text.length

/-- The entries of a document and the path of its latest header. -/
structure Draft where
  entries : Entries := []
  current : List String := []

/-- Takes a line in. -/
def Draft.add? (draft : Draft) : Line → Option Draft
  | .blank => some draft
  | .assignment path value => do
    let entries ← alterOpened? (assign? value path) draft.current draft.entries
    return { draft with entries }
  | .header path => do return { entries := ← open? path draft.entries, current := path }
  | .elementHeader path => do
    return { entries := ← openElement? path draft.entries, current := path }

/-- Reads a document. A byte order mark may stand in front. -/
def read? (text : String) : Option Entries := do
  let chars := match text.toList with
    | '\uFEFF' :: rest => rest
    | chars => chars
  let draft ← (← lines? chars).foldlM Draft.add? {}
  return draft.entries

end EventNet.Toml
