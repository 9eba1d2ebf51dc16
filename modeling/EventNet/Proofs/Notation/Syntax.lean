import EventNet.Notation.Layout
import EventNet.Statement

/-!
# The grammar of the net notation

```text
program     = {statement}
statement   = factual | clause
factual     = places '.'
clause      = [opening] transitions ['->' places] '.'
opening     = [places] [':' places] '->' [places '-o'] | places '-o'
places      = label {',' label}
transitions = '#' label {',' '#' label}
```

The grammar is given apart from any way of reading a text: which texts are layout, and
which texts are spellings of a label, a list, a sentence or a program. Layout may stand
before every word and at the end of a program. A label is a run of at least one label
character, and the label of a transition follows its number sign at once.

A sentence is what is left of a statement without its layout. The statements that it
stands for are read off it (`Sentence.statements`).
-/

set_option autoImplicit false

namespace EventNet.Notation

/-! ## Layout -/

/-- The text of a comment: no line ends in it. -/
def IsCommentText (text : List Char) : Prop := ∀ c ∈ text, c ≠ '\r' ∧ c ≠ '\n'

/-- The end of a line. -/
inductive IsLineEnd : List Char → Prop where
  | feed : IsLineEnd ['\n']
  | returnFeed : IsLineEnd ['\r', '\n']

/-- Spaces, tabs, line ends and comments, of which each goes up to the end of its line. -/
inductive IsLayout : List Char → Prop where
  | nil : IsLayout []
  | space {c : Char} {text : List Char} : c = ' ' ∨ c = '\t' ∨ c = '\r' ∨ c = '\n' →
      IsLayout text → IsLayout (c :: text)
  | comment {body lineEnd text : List Char} : IsCommentText body → IsLineEnd lineEnd →
      IsLayout text → IsLayout ('%' :: body ++ lineEnd ++ text)

/-- Layout at the end of a text, where a comment needs no line end. -/
inductive IsLastLayout : List Char → Prop where
  | layout {gap : List Char} : IsLayout gap → IsLastLayout gap
  | comment {gap body : List Char} : IsLayout gap → IsCommentText body →
      IsLastLayout (gap ++ '%' :: body)

/-! ## Words -/

/-- A fixed mark after layout. -/
inductive IsMark (sign : List Char) : List Char → Prop where
  | mk {gap : List Char} : IsLayout gap → IsMark sign (gap ++ sign)

/-- A run of at least one label character. -/
def IsName (name : String) : Prop := name.toList ≠ [] ∧ ∀ c ∈ name.toList, isLabelChar c = true

/-- A label after layout. -/
inductive IsLabel : String → List Char → Prop where
  | mk {gap : List Char} {name : String} : IsLayout gap → IsName name →
      IsLabel name (gap ++ name.toList)

/-- The label of a transition behind a number sign. -/
inductive IsTransition : String → List Char → Prop where
  | mk {sign : List Char} {name : String} : IsMark ['#'] sign → IsName name →
      IsTransition name (sign ++ name.toList)

/-! ## Lists -/

/-- One or more items with commas between them. -/
inductive IsList (IsItem : String → List Char → Prop) : List String → List Char → Prop where
  | last {item : String} {text : List Char} : IsItem item text → IsList IsItem [item] text
  | more {item : String} {items : List String} {text comma rest : List Char} :
      IsItem item text → IsMark [','] comma → IsList IsItem items rest →
        IsList IsItem (item :: items) (text ++ comma ++ rest)

/-- A list of places. -/
abbrev IsPlaces : List String → List Char → Prop := IsList IsLabel

/-- A list of transitions. -/
abbrev IsTransitions : List String → List Char → Prop := IsList IsTransition

/-- Places behind a mark. -/
inductive IsPlacesAfter (sign : List Char) : List String → List Char → Prop where
  | mk {labels : List String} {mark text : List Char} : IsMark sign mark →
      IsPlaces labels text → IsPlacesAfter sign labels (mark ++ text)

/-- Places in front of a mark. -/
inductive IsPlacesBefore (sign : List Char) : List String → List Char → Prop where
  | mk {labels : List String} {text mark : List Char} : IsPlaces labels text →
      IsMark sign mark → IsPlacesBefore sign labels (text ++ mark)

/-- A part that may be left out, and is then an empty list. -/
inductive IsOptional (IsPart : List String → List Char → Prop) :
    List String → List Char → Prop where
  | absent : IsOptional IsPart [] []
  | present {labels : List String} {text : List Char} : IsPart labels text →
      IsOptional IsPart labels text

/-! ## Sentences -/

/-- What a clause begins with. -/
inductive Opening where
  /-- Nothing. -/
  | bare
  /-- An arrow; what stands before it is consumed or, behind a colon, a catalyst, and what
  stands after it inhibits. -/
  | arrow (consumed catalysts inhibitors : List String)
  /-- Inhibitors only, without an arrow. -/
  | inhibition (inhibitors : List String)
  deriving DecidableEq

/-- A statement of a text without its layout. -/
inductive Sentence where
  | factual (places : List String)
  | clause (opening : Opening) (transitions products : List String)
  deriving DecidableEq

/-- The spellings of openings. -/
inductive Opening.Spells : Opening → List Char → Prop where
  | bare : Spells bare []
  | arrow {consumed catalysts inhibitors : List String} {first second arrow third : List Char} :
      IsOptional IsPlaces consumed first → IsOptional (IsPlacesAfter [':']) catalysts second →
        IsMark ['-', '>'] arrow → IsOptional (IsPlacesBefore ['-', 'o']) inhibitors third →
          Spells (.arrow consumed catalysts inhibitors) (first ++ second ++ arrow ++ third)
  | inhibition {inhibitors : List String} {text : List Char} :
      IsPlacesBefore ['-', 'o'] inhibitors text → Spells (.inhibition inhibitors) text

/-- The spellings of sentences. -/
inductive Sentence.Spells : Sentence → List Char → Prop where
  | factual {labels : List String} {text : List Char} : IsPlacesBefore ['.'] labels text →
      Spells (.factual labels) text
  | clause {opening : Opening} {transitions products : List String}
      {first second third stop : List Char} :
      opening.Spells first → IsTransitions transitions second →
        IsOptional (IsPlacesAfter ['-', '>']) products third → IsMark ['.'] stop →
          Spells (.clause opening transitions products) (first ++ second ++ third ++ stop)

/-- The texts of a program. -/
inductive IsProgram : List Sentence → List Char → Prop where
  | done {text : List Char} : IsLastLayout text → IsProgram [] text
  | sentence {sentence : Sentence} {sentences : List Sentence} {text rest : List Char} :
      sentence.Spells text → IsProgram sentences rest →
        IsProgram (sentence :: sentences) (text ++ rest)

/-! ## Meaning -/

/-- The arcs that an opening asks for, kind by kind. -/
def Opening.arcs : Opening → List (ArcKind × String)
  | bare => []
  | arrow consumed catalysts inhibitors =>
    consumed.map (ArcKind.consume, ·) ++ catalysts.map (ArcKind.catalyst, ·) ++
      inhibitors.map (ArcKind.inhibit, ·)
  | inhibition inhibitors => inhibitors.map (ArcKind.inhibit, ·)

/-- The statements that a sentence stands for: a clause stands for one statement for each
of its transitions, all with the same arcs. -/
def Sentence.statements : Sentence → List Statement
  | factual places => [.factual places]
  | clause opening transitions products =>
    transitions.map fun transition =>
      .clause transition (opening.arcs ++ products.map (ArcKind.produce, ·))

end EventNet.Notation
