import EventNet.Json.Basic
import EventNet.Json.Token

/-!
# JSON texts as far as they can be read

What a program makes of a faulty document depends on what it looks for: a member of
the wrong type may come before a missing bracket, and then it is the type that is
complained about. So a text is not refused as a whole. It is read up to its first
flaw, and the flaw takes the place of the value, key or end that should be there.

The words of the text are taken in one after another. `State` says what may come next
and holds the values that are still open.
-/

set_option autoImplicit false

namespace EventNet.Json

/-- A key of an object, or what stands in its place. -/
inductive Key where
  /-- A string, without a text if its escapes spell none. -/
  | name (text : Option String)
  /-- No key. -/
  | flawed (flaw : Flaw)

/-- A JSON text up to its first flaw. -/
inductive Reading where
  | null
  | bool (value : Bool)
  | number (literal : NumberLiteral)
  | string (text : Option String)
  /-- The items, and what is wrong where a comma or the end should be. -/
  | array (items : List Reading) (cut : Option Problem)
  /-- The members, and what is wrong where a comma or the end should be. -/
  | object (fields : List (Key × Reading)) (cut : Option Problem)
  /-- No value. -/
  | flawed (flaw : Flaw)

instance : Inhabited Reading := ⟨.null⟩

/-- A value that is still open, without the part that is being read. The latest items and
members come first. -/
inductive Frame where
  | array (before : List Reading)
  | object (before : List (Key × Reading)) (key : Key)

/-- What may come next in a text, and the open values, the innermost first. -/
inductive State where
  /-- A value. -/
  | value (frames : List Frame)
  /-- The first item of an array, or its end. -/
  | itemOrEnd (frames : List Frame)
  /-- The first key of an object, or its end. -/
  | keyOrEnd (frames : List Frame)
  /-- A key. -/
  | key (frames : List Frame) (before : List (Key × Reading))
  /-- The colon behind a key. -/
  | colon (frames : List Frame) (before : List (Key × Reading)) (key : Key)
  /-- A comma between items, or the end of the array. -/
  | inArray (frames : List Frame) (items : List Reading)
  /-- A comma between members, or the end of the object. -/
  | inObject (frames : List Frame) (fields : List (Key × Reading))
  /-- Nothing: the value is complete. -/
  | whole (value : Reading)
  /-- Anything: reading has stopped. -/
  | stopped (value : Reading) (trailing : Bool)

/-- A text that has been read: its value, and whether more words follow it. -/
structure Document where
  value : Reading
  trailing : Bool

/-- The whole value, if the innermost open part is `value` and reading stops there. -/
def unwind : List Frame → Reading → Reading
  | [], value => value
  | .array before :: frames, value => unwind frames (.array (value :: before).reverse none)
  | .object before key :: frames, value =>
    unwind frames (.object ((key, value) :: before).reverse none)

/-- The state behind a complete value. -/
def complete : List Frame → Reading → State
  | [], value => .whole value
  | .array before :: frames, value => .inArray frames (value :: before)
  | .object before key :: frames, value => .inObject frames ((key, value) :: before)

/-- Reading stops at a flaw where a value should be. -/
def stopAt (frames : List Frame) (flaw : Flaw) : State :=
  .stopped (unwind frames (.flawed flaw)) false

/-- Reading stops in an array where a comma or the end should be. -/
def cutArray (frames : List Frame) (items : List Reading) (problem : Problem) : Reading :=
  unwind frames (.array items.reverse (some problem))

/-- Reading stops in an object where a comma or the end should be. -/
def cutObject (frames : List Frame) (fields : List (Key × Reading)) (problem : Problem) :
    Reading :=
  unwind frames (.object fields.reverse (some problem))

/-- The state behind a word that stands where a value should be. -/
def valueStep (frames : List Frame) : Token → State
  | .openArray => .itemOrEnd frames
  | .openObject => .keyOrEnd frames
  | .null => complete frames .null
  | .bool value => complete frames (.bool value)
  | .number literal => complete frames (.number literal)
  | .string text => complete frames (.string text)
  | .badString flaw | .bad flaw => stopAt frames flaw
  | .closeArray | .closeObject | .comma | .colon => stopAt frames (.plain .malformed)

/-- Reading stops at a flaw where a key should be. -/
def stopAtKey (frames : List Frame) (before : List (Key × Reading)) (flaw : Flaw) : Reading :=
  unwind frames (.object ((Key.flawed flaw, .null) :: before).reverse none)

/-- The state behind a word that stands where a key should be. Only a string is a key. -/
def keyStep (frames : List Frame) (before : List (Key × Reading)) : Token → State
  | .string text => .colon frames before (.name text)
  | .badString flaw => .stopped (stopAtKey frames before flaw) false
  | _ => .stopped (stopAtKey frames before (.plain .malformed)) false

/-- Takes in a word. -/
def State.step : State → Token → State
  | .value frames, word => valueStep frames word
  | .itemOrEnd frames, .closeArray => complete frames (.array [] none)
  | .itemOrEnd frames, word => valueStep (.array [] :: frames) word
  | .keyOrEnd frames, .closeObject => complete frames (.object [] none)
  | .keyOrEnd frames, word => keyStep frames [] word
  | .key frames before, word => keyStep frames before word
  | .colon frames before name, .colon => .value (.object before name :: frames)
  | .colon frames before name, _ => stopAt (.object before name :: frames) (.plain .malformed)
  | .inArray frames items, .comma => .value (.array items :: frames)
  | .inArray frames items, .closeArray => complete frames (.array items.reverse none)
  | .inArray frames items, _ => .stopped (cutArray frames items .malformed) false
  | .inObject frames fields, .comma => .key frames fields
  | .inObject frames fields, .closeObject => complete frames (.object fields.reverse none)
  | .inObject frames fields, _ => .stopped (cutObject frames fields .malformed) false
  | .whole done, _ => .stopped done true
  | .stopped done trailing, _ => .stopped done trailing

/-- What has been read when the text ends. -/
def State.finish : State → Document
  | .value frames => { value := unwind frames (.flawed (.plain .cutShort)), trailing := false }
  | .itemOrEnd frames => { value := cutArray frames [] .cutShort, trailing := false }
  | .keyOrEnd frames => { value := cutObject frames [] .cutShort, trailing := false }
  | .key frames before =>
    { value := stopAtKey frames before (.plain .cutShort), trailing := false }
  | .colon frames before name =>
    { value := unwind (.object before name :: frames) (.flawed (.plain .cutShort))
      trailing := false }
  | .inArray frames items => { value := cutArray frames items .cutShort, trailing := false }
  | .inObject frames fields => { value := cutObject frames fields .cutShort, trailing := false }
  | .whole done => { value := done, trailing := false }
  | .stopped done trailing => { value := done, trailing }

/-- Reads a text. -/
def Document.ofText (text : String) : Document :=
  ((tokens text.toList).foldl State.step (.value [])).finish

mutual

/-- The first problem for a reader who passes over a value. -/
def Reading.skipProblem? : Reading → Option Problem
  | null | bool _ | number _ | string _ => none
  | array items cut => (skipItems? items).or cut
  | object fields cut => (skipFields? fields).or cut
  | flawed flaw => some flaw.skipped

/-- The first problem for a reader who passes over items. -/
def Reading.skipItems? : List Reading → Option Problem
  | [] => none
  | item :: items => item.skipProblem?.or (skipItems? items)

/-- The first problem for a reader who passes over members. -/
def Reading.skipFields? : List (Key × Reading) → Option Problem
  | [] => none
  | (.flawed flaw, _) :: _ => some flaw.skipped
  | (.name _, value) :: fields => value.skipProblem?.or (skipFields? fields)

end

end EventNet.Json
