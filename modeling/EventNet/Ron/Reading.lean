import EventNet.Ron.Basic
import EventNet.Ron.Extension

/-!
# Reading RON texts

The words of a text are taken in one after another; `State` says what may come next and
holds the values that are still open. A comma may stand behind the last member of a
value. Parentheses are a record if they start with a bare word and a colon, and a tuple
otherwise. The names of fields are bare words, and any bare word is one.

The word `Some` announces a value that might be missing. It has that value in parentheses
behind it, and no other. The words for missing values, truth values, infinity and no
number never have parentheses behind them.

How deep values may be nested is limited. A member of a list, map, tuple or record lies
two levels below it, and the value that `Some` announces lies one level below.
-/

set_option autoImplicit false

namespace EventNet.Ron

/-! ## Open values -/

/-- The word that announces a value that might be missing. -/
def someName : String := "Some"

/-- A word announces a value. -/
def announces (name : String) (raw : Bool) : Bool := name == someName && !raw

/-- What stands in front of parentheses. -/
inductive Label where
  | bare
  | word (name : String)
  /-- The word `Some`, unless it is raw. -/
  | announcing

namespace Label

/-- The name of a value with a label. -/
def name? : Label → Option String
  | bare => none
  | word name => some name
  | announcing => some someName

/-- The label that a word makes. -/
def ofWord (name : String) (raw : Bool) : Label :=
  if announces name raw then announcing else word name

/-- Parentheses with the label hold one value and nothing else. -/
def holdsOne (extensions : List Extension) : Label → Bool
  | announcing => !extensions.contains .unwrapVariantNewtypes
  | _ => false

end Label

/-- A value that is still open. The latest members come first; a key or the name of a field
waits for its value. -/
inductive Frame where
  | list (before : List Ron)
  | map (before : List (Ron × Ron)) (key : Option Ron)
  /-- Parentheses without any member. -/
  | opened (label : Label)
  | tuple (label : Label) (before : List Ron)
  | record (label : Label) (before : List (String × Ron)) (field : Option String)
  /-- The word `Some` with a value behind it that has no parentheses around it. -/
  | announced

namespace Frame

/-- How many levels a member lies below the value. A tuple or record behind `Some` lies one
level deeper than another one. -/
def weight : Frame → Nat
  | opened .announcing | announced => 1
  | tuple .announcing _ | record .announcing _ _ => 3
  | _ => 2

/-- A further value may come where a member may. -/
def admitsMore (extensions : List Extension) : Frame → Bool
  | tuple label _ => !label.holdsOne extensions
  | _ => true

end Frame

/-- The depth at which members of the innermost value lie. -/
def depthOf (frames : List Frame) : Nat := frames.foldr (fun frame depth => frame.weight + depth) 0

/-- The greatest depth of a value. -/
def maxDepth : Nat := 128

/-! ## States -/

/-- What may come next, and the open values, the innermost first. -/
inductive State where
  /-- A member of the innermost value, or its end. -/
  | member (frames : List Frame)
  /-- A value. -/
  | value (frames : List Frame)
  /-- What belongs to a bare word: parentheses, a colon if it is the name of a first field,
  or the value that it announces. -/
  | named (frames : List Frame) (name : String) (raw : Bool)
  /-- The colon behind a key or the name of a field. -/
  | keyed (frames : List Frame)
  /-- A comma, or the end of the innermost value. -/
  | behind (frames : List Frame)
  /-- Nothing: the value is complete. -/
  | whole (value : Ron)
  /-- Anything: more words have come behind the value. -/
  | trailing (value : Ron)
  /-- Anything: the text is no RON. -/
  | failed

/-- The state behind a complete value. -/
def complete : List Frame → Ron → State
  | [], value => .whole value
  | .list before :: frames, value => .behind (.list (value :: before) :: frames)
  | .map before none :: frames, key => .keyed (.map before (some key) :: frames)
  | .map before (some key) :: frames, value =>
    .behind (.map ((key, value) :: before) none :: frames)
  | .opened label :: frames, value => .behind (.tuple label [value] :: frames)
  | .tuple label before :: frames, value => .behind (.tuple label (value :: before) :: frames)
  | .record label before (some field) :: frames, value =>
    .behind (.record label ((field, value) :: before) none :: frames)
  | .record _ _ none :: _, _ => .failed
  | .announced :: frames, value => complete frames (.tuple (some someName) [value])

/-- The state behind the start of a value, unless it lies too deep to have members. -/
def openValue (frame : Frame) (frames : List Frame) : State :=
  if depthOf frames < maxDepth then .member (frame :: frames) else .failed

/-- The state behind a word that stands where a value should be. -/
def valueStep (frames : List Frame) (next : Token) : State :=
  if maxDepth < depthOf frames then .failed
  else
    match next with
    | .openRound => .member (.opened .bare :: frames)
    | .openSquare => openValue (.list []) frames
    | .openCurly => openValue (.map [] none) frames
    | .word name raw => .named frames name raw
    | .number literal => complete frames (.number literal)
    | .char value => complete frames (.char value)
    | .string text => complete frames (.string text)
    | .bytes values => complete frames (.bytes values)
    | .closeRound | .closeSquare | .closeCurly | .comma | .colon | .hash | .bang | .bad => .failed

/-- The end of the innermost value. -/
def close (extensions : List Extension) : List Frame → Token → State
  | .list before :: frames, .closeSquare => complete frames (.list before.reverse)
  | .map before none :: frames, .closeCurly => complete frames (.map before.reverse)
  | .opened label :: frames, .closeRound =>
    if label.holdsOne extensions then .failed else complete frames (.tuple label.name? [])
  | .tuple label before :: frames, .closeRound =>
    complete frames (.tuple label.name? before.reverse)
  | .record label before none :: frames, .closeRound =>
    complete frames (.record label.name? before.reverse)
  | _, _ => .failed

/-- A word that may end the innermost value. -/
def Token.closes : Token → Bool
  | .closeRound | .closeSquare | .closeCurly => true
  | _ => false

/-- Takes in a word behind a complete value. -/
def stepBehind (extensions : List Extension) (state : State) (next : Token) : State :=
  match state, next with
  | .behind frames, .comma => .member frames
  | .behind frames, next => if next.closes then close extensions frames next else .failed
  | .keyed frames, .colon => .value frames
  | .whole done, _ => .trailing done
  | _, _ => .failed

/-- Takes in a word where a member or an end should be. -/
def memberStep (extensions : List Extension) (frames : List Frame) (next : Token) : State :=
  if next.closes then close extensions frames next
  else
    match frames, next with
    | .record label before none :: frames, .word name _ =>
      .keyed (.record label before (some name) :: frames)
    | .record _ _ none :: _, _ => .failed
    | frames, next =>
      if frames.head?.all (Frame.admitsMore extensions) then valueStep frames next else .failed

/-! ## Bare words -/

/-- Words that stand for a value by themselves, unless they are raw. -/
def valueWords : List String :=
  ["true", "false", "None", "inf", "inff32", "inff64", "NaN", "NaNf32", "NaNf64"]

/-- The state behind a word with a parenthesis. -/
def openNamed (frames : List Frame) (name : String) (raw : Bool) : State :=
  if !raw && valueWords.contains name then .failed
  else openValue (.opened (Label.ofWord name raw)) frames

/-- The open values when a word turns out to be the name of a first field. -/
def openRecord? (extensions : List Extension) (name : String) : List Frame → Option (List Frame)
  | .opened label :: frames =>
    if label.holdsOne extensions then none else some (.record label [] (some name) :: frames)
  | _ => none

/-- Takes in what follows a bare word. -/
def namedStep (extensions : List Extension) (frames : List Frame) (name : String) (raw : Bool)
    (next : Token) : State :=
  match next, openRecord? extensions name frames with
  | .openRound, _ => openNamed frames name raw
  | .colon, some opened => .value opened
  | next, _ =>
    if announces name raw then
      if extensions.contains .implicitSome then valueStep (.announced :: frames) next
      else .failed
    else stepBehind extensions (complete frames (.word name raw)) next

/-! ## The whole text -/

/-- Takes in a word. -/
def State.step (extensions : List Extension) (state : State) (next : Token) : State :=
  match state with
  | .member frames => memberStep extensions frames next
  | .value frames => valueStep frames next
  | .named frames name raw => namedStep extensions frames name raw next
  | .trailing done => .trailing done
  | state => stepBehind extensions state next

/-- What a text holds. -/
structure Document where
  extensions : List Extension
  value : Ron
  /-- More words follow the value. -/
  hasMore : Bool

/-- The value of a text and whether more words follow it; there is none if the text is no
RON. -/
def State.finish? : State → Option (Ron × Bool)
  | .whole done => some (done, false)
  | .named [] name raw => if announces name raw then none else some (.word name raw, false)
  | .trailing done => some (done, true)
  | _ => none

/-- Reads a text. -/
def read? (text : String) : Option Document := do
  let (extensions, words) ← attributes? [] (tokens text.toList)
  let (value, hasMore) ← (words.foldl (State.step extensions) (.value [])).finish?
  return { extensions, value, hasMore }

end EventNet.Ron
