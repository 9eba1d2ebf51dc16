import EventNet.Notation.Layout
import EventNet.Statement

/-!
# Statements of the net notation

```text
statement   = factual | clause
factual     = places '.'
clause      = [condition] transitions ['->' places] '.'
condition   = [places] [':' places] '->' [places '-o'] | places '-o'
places      = label {',' label}
transitions = '#' label {',' '#' label}
```

The places before the arrow are consumed, those after the colon are catalysts, those
before `-o` inhibit, and those after the transitions are produced. A clause with
several transitions stands for one clause for each of them, all with the same arcs.
Layout may stand before every mark and label, but not between a number sign and its
label.
-/

set_option autoImplicit false

namespace EventNet.Notation

/-- The places that a clause asks about, by the kind of arc. -/
structure Condition where
  consumed : List String := []
  catalysts : List String := []
  inhibitors : List String := []

/-- Reads a list of places. -/
def places : Reader (List String) := commaSeparated label

/-- Reads a number sign and the label of a transition. -/
def transition : Reader String := fun text => do
  let (_, rest) ← mark ['#'] text
  bareLabel rest

/-- Reads a list of transitions. -/
def transitions : Reader (List String) := commaSeparated transition

/-- What a reader finds, or nothing read and nothing taken. -/
def optionally {α : Type} (reader : Reader α) (text : List Char) : Option α × List Char :=
  match reader text with
  | none => (none, text)
  | some (value, rest) => (some value, rest)

/-- Reads a mark and then the places after it. -/
def placesAfter (sign : List Char) : Reader (List String) := fun text => do
  let (_, rest) ← mark sign text
  places rest

/-- Reads places and then the sign of inhibition. -/
def inhibitors : Reader (List String) := fun text => do
  let (labels, rest) ← places text
  let (_, rest) ← mark ['-', 'o'] rest
  return (labels, rest)

/-- Reads a condition with an arrow. -/
def enabling : Reader Condition := fun text => do
  let (consumed, rest) := optionally places text
  let (catalysts, rest) := optionally (placesAfter [':']) rest
  let (_, rest) ← mark ['-', '>'] rest
  let (inhibiting, rest) := optionally inhibitors rest
  return ({ consumed := consumed.getD [], catalysts := catalysts.getD [],
            inhibitors := inhibiting.getD [] }, rest)

/-- Reads a condition that only inhibits. -/
def inhibiting : Reader Condition := fun text => do
  let (labels, rest) ← inhibitors text
  return ({ inhibitors := labels }, rest)

/-- Reads a condition. -/
def condition : Reader Condition := Reader.orElse enabling inhibiting

/-- The arcs of a clause: those of its condition, kind by kind, and then the products. -/
def clauseArcs (condition : Condition) (products : List String) : List (ArcKind × String) :=
  (condition.consumed.map fun place => (.consume, place)) ++
  (condition.catalysts.map fun place => (.catalyst, place)) ++
  (condition.inhibitors.map fun place => (.inhibit, place)) ++
  products.map fun place => (.produce, place)

/-- Reads a clause, as one statement for each of its transitions. -/
def clause : Reader (List Statement) := fun text => do
  let (asked, rest) := optionally condition text
  let (labels, rest) ← transitions rest
  let (products, rest) := optionally (placesAfter ['-', '>']) rest
  let (_, rest) ← mark ['.'] rest
  let arcs := clauseArcs (asked.getD {}) (products.getD [])
  return (labels.map fun transition => .clause transition arcs, rest)

/-- Reads a list of factual places. -/
def factual : Reader (List Statement) := fun text => do
  let (labels, rest) ← places text
  let (_, rest) ← mark ['.'] rest
  return ([.factual labels], rest)

/-- Reads one statement of a text, which may stand for several. -/
def statement : Reader (List Statement) := Reader.orElse clause factual

theorem places_shortens : Reader.Shortens places := commaSeparated_shortens label_shortens

theorem transition_shortens : Reader.Shortens transition := by
  intro text name rest found
  simp only [transition, Option.bind_eq_bind, Option.bind_eq_some_iff] at found
  obtain ⟨⟨_, after⟩, sign, named⟩ := found
  have := length_mark sign
  have := bareLabel_shortens _ _ _ named
  dsimp only at *
  omega

theorem transitions_shortens : Reader.Shortens transitions :=
  commaSeparated_shortens transition_shortens

theorem placesAfter_shortens (sign : List Char) : Reader.Shortens (placesAfter sign) := by
  intro text labels rest found
  simp only [placesAfter, Option.bind_eq_bind, Option.bind_eq_some_iff] at found
  obtain ⟨⟨_, after⟩, marked, listed⟩ := found
  have := length_mark marked
  have := places_shortens _ _ _ listed
  dsimp only at *
  omega

theorem inhibitors_shortens : Reader.Shortens inhibitors := by
  intro text labels rest found
  simp only [inhibitors, Option.bind_eq_bind, Option.bind_eq_some_iff, Option.pure_def,
    Option.some.injEq, Prod.mk.injEq] at found
  obtain ⟨⟨_, after⟩, listed, ⟨_, last⟩, marked, _, rfl⟩ := found
  have := length_mark marked
  have := places_shortens _ _ _ listed
  dsimp only at *
  omega

theorem length_optionally {α : Type} {reader : Reader α} (shortens : reader.Shortens)
    (text : List Char) : (optionally reader text).2.length ≤ text.length := by
  unfold optionally
  split
  · exact Nat.le_refl _
  · rename_i found
    exact Nat.le_of_lt (shortens _ _ _ found)

theorem enabling_shortens : Reader.Shortens enabling := by
  intro text asked rest found
  simp only [enabling, Option.bind_eq_bind, Option.bind_eq_some_iff, Option.pure_def,
    Option.some.injEq, Prod.mk.injEq] at found
  obtain ⟨⟨_, after⟩, marked, _, rfl⟩ := found
  have := length_mark marked
  have := length_optionally inhibitors_shortens after
  have := length_optionally places_shortens text
  have := length_optionally (placesAfter_shortens [':']) (optionally places text).2
  dsimp only [List.length_cons, List.length_nil] at *
  omega

theorem inhibiting_shortens : Reader.Shortens inhibiting := by
  intro text asked rest found
  simp only [inhibiting, Option.bind_eq_bind, Option.bind_eq_some_iff, Option.pure_def,
    Option.some.injEq, Prod.mk.injEq] at found
  obtain ⟨⟨_, after⟩, read, _, rfl⟩ := found
  exact inhibitors_shortens _ _ _ read

theorem condition_shortens : Reader.Shortens condition :=
  enabling_shortens.orElse inhibiting_shortens

theorem clause_shortens : Reader.Shortens clause := by
  intro text statements rest found
  simp only [clause, Option.bind_eq_bind, Option.bind_eq_some_iff, Option.pure_def,
    Option.some.injEq, Prod.mk.injEq] at found
  obtain ⟨⟨labels, after⟩, listed, ⟨_, last⟩, marked, _, rfl⟩ := found
  have := length_mark marked
  have := transitions_shortens _ _ _ listed
  have := length_optionally (placesAfter_shortens ['-', '>']) after
  have := length_optionally condition_shortens text
  dsimp only [List.length_cons, List.length_nil] at *
  omega

theorem factual_shortens : Reader.Shortens factual := by
  intro text statements rest found
  simp only [factual, Option.bind_eq_bind, Option.bind_eq_some_iff, Option.pure_def,
    Option.some.injEq, Prod.mk.injEq] at found
  obtain ⟨⟨_, after⟩, listed, ⟨_, last⟩, marked, _, rfl⟩ := found
  have := length_mark marked
  have := places_shortens _ _ _ listed
  dsimp only at *
  omega

theorem statement_shortens : Reader.Shortens statement :=
  clause_shortens.orElse factual_shortens

end EventNet.Notation
