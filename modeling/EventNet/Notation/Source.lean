import EventNet.Builder
import EventNet.Notation.Grammar
import EventNet.Text.Blank

/-!
# Reading a source text

A source text is read region by region. A region is a statement, or a stretch that is
no statement: then it is reported, and reading goes on behind the next full stop or,
if a comment comes first, at the end of that comment, so that a full stop inside a
comment ends nothing.

Every region is longer than nothing, so reading comes to an end, and every region
knows the line and column at which it starts.
-/

set_option autoImplicit false

namespace EventNet.Notation

/-- A place in a text. Lines and columns are counted from one, columns in characters. -/
structure Position where
  line : Nat := 1
  column : Nat := 1
  deriving DecidableEq

namespace Position

/-- The place behind a character. -/
def next (position : Position) (c : Char) : Position :=
  if c = '\n' then { line := position.line + 1, column := 1 }
  else { position with column := position.column + 1 }

/-- The place behind a stretch of text. -/
def after (position : Position) (text : List Char) : Position := text.foldl next position

/-- The place at which `rest` starts, if `text` starts at `position` and ends with `rest`. -/
def upTo (position : Position) (text rest : List Char) : Position :=
  position.after (text.take (text.length - rest.length))

end Position

/-- A stretch of text that is no statement. -/
structure SyntaxError where
  position : Position
  message : String
  deriving DecidableEq

/-- The error with its place. -/
def SyntaxError.text (error : SyntaxError) : String :=
  toString error.position.line ++ ":" ++ toString error.position.column ++ ": " ++ error.message

/-- The longest excerpt of a faulty stretch that is quoted in full. -/
def excerptLength : Nat := 40

/-- A character that ends the excerpt of a faulty stretch. -/
def endsExcerpt (c : Char) : Bool := c == '.' || c == '%' || c == '\n'

/-- The start of a faulty stretch: up to a full stop, comment or line end, trimmed, and cut
short if it is long. -/
def excerpt (text : List Char) : String :=
  let line := Text.trimChars (text.takeWhile fun c => !endsExcerpt c)
  if line.length > excerptLength then String.ofList (line.take excerptLength) ++ "..."
  else String.ofList line

/-- What is left to read after a faulty stretch. A per cent sign that starts no comment
leaves nothing. -/
def recover (text : List Char) : List Char :=
  match text with
  | [] => []
  | '.' :: rest => rest
  | '%' :: rest => (afterComment? rest).getD []
  | _ :: rest => recover rest

theorem length_recover (text : List Char) : (recover text).length ≤ text.length - 1 := by
  fun_induction recover text with
  | case1 => simp
  | case2 rest => simp
  | case3 rest =>
    cases found : afterComment? rest with
    | none => simp
    | some after => simpa using length_afterComment? found
  | case4 c rest _ _ ih =>
    simp only [List.length_cons, Nat.add_sub_cancel]
    omega

/-- A stretch of a source text. -/
inductive Region where
  /-- One statement of the text, which may stand for several. -/
  | accepted (start : Position) (statements : List Statement)
  /-- A stretch that is no statement. -/
  | rejected (error : SyntaxError)

/-- The error about a faulty stretch. -/
def rejection (start : Position) (text : List Char) : SyntaxError :=
  { position := start, message := "unrecognised statement `" ++ excerpt text ++ "`" }

/-- The region at the start of a text, which starts at `start`, and what is left behind it. -/
def firstRegion (start : Position) (text : List Char) : Region × List Char :=
  match statement text with
  | some (statements, rest) => (.accepted start statements, rest)
  | none => (.rejected (rejection start text), recover text)

theorem length_firstRegion (start : Position) {text : List Char} (nonempty : text ≠ []) :
    (firstRegion start text).2.length < text.length := by
  unfold firstRegion
  split
  · rename_i found
    exact statement_shortens _ _ _ found
  · have := length_recover text
    have := List.length_pos_iff.2 nonempty
    dsimp only
    omega

/-- The regions of a text that starts at `position`. -/
def regionsFrom (position : Position) (text : List Char) : List Region :=
  let begun := skipLayout text
  if _ : begun = [] then []
  else
    let start := position.upTo text begun
    let read := firstRegion start begun
    read.1 :: regionsFrom (start.upTo begun read.2) read.2
  termination_by text.length
  decreasing_by
    exact Nat.lt_of_lt_of_le (length_firstRegion _ (by assumption)) (length_skipLayout text)

/-- The regions of a source text. -/
def regions (source : String) : List Region := regionsFrom {} source.toList

namespace Region

/-- The statements of a region. -/
def statements : Region → List Statement
  | accepted _ statements => statements
  | rejected _ => []

/-- The line of every statement of a region. -/
def lines : Region → List Nat
  | accepted start statements => statements.map fun _ => start.line
  | rejected _ => []

/-- The error of a region that is no statement. -/
def error? : Region → Option SyntaxError
  | accepted _ _ => none
  | rejected error => some error

end Region

/-- What a source text says: its statements, the line of each, and its faulty stretches. -/
structure Reading where
  statements : List Statement
  lines : List Nat
  errors : List SyntaxError

/-- Reads a source text. -/
def read (source : String) : Reading :=
  let all := regions source
  { statements := all.flatMap Region.statements
    lines := all.flatMap Region.lines
    errors := all.filterMap Region.error? }

/-- The log of reading: a record for every faulty stretch. -/
def Reading.log (reading : Reading) : Log :=
  reading.errors.map fun error => .debug error.text

/-- Something wrong with a source text. -/
inductive Diagnostic where
  | unread (error : SyntaxError)
  | unbuilt (line : Option Nat) (error : BuildError)

/-- The wording of a diagnostic. -/
def Diagnostic.text : Diagnostic → String
  | unread error => "syntax error at " ++ error.text
  | unbuilt (some line) error => "line " ++ toString line ++ ": " ++ error.fault.message
  | unbuilt none error => error.message

/-- The net that a source text describes, and all that is wrong with the text. -/
structure Compilation where
  net : Net
  statements : List Statement
  diagnostics : List Diagnostic
  log : Log

/-- Nothing is wrong with the text. -/
def Compilation.isClean (compilation : Compilation) : Bool := compilation.diagnostics.isEmpty

/-- Reads a source text and builds its net. Faulty parts are reported and left out. -/
def compile (source : String) : Compilation :=
  let reading := read source
  let builder := Builder.ofStatements reading.statements
  { net := builder.net
    statements := reading.statements
    diagnostics := reading.errors.map .unread ++ builder.errors.map fun error =>
      .unbuilt (error.index.bind fun index => reading.lines[index]?) error
    log := reading.log ++ builder.finalLog }

end EventNet.Notation
