import EventNet.Builder
import EventNet.Proofs.Build.WellBuilt

/-!
# What statements say

What a net contains can be read off the statements that it is built from (`Contents`). The
places are the labels that are mentioned anywhere, in the order in which they are mentioned
first, and those are factual that some factual statement mentions. Every clause that names a
transition makes an instance, and the instance has the arcs that are kept of the clause
(`keepArc`): a blank label makes none, and neither does an arc that is there already or that
contradicts one that is.

The order in which facts are stated makes little difference to this, since a label is a
place at its first mention (`Contents.places_mention`) and a fact at any
(`Contents.places_assert`).
-/

set_option autoImplicit false

namespace EventNet

/-! ## The contents of statements -/

/-- A label as trimming leaves it, unless nothing is left. -/
def labelOf? (text : String) : Option String :=
  let label := Text.trim text
  if label.isEmpty then none else some label

theorem labelOf?_eq_none_iff {text : String} :
    labelOf? text = none ↔ (Text.trim text).isEmpty = true := by
  simp [labelOf?]

theorem labelOf?_eq_some_iff {text label : String} :
    labelOf? text = some label ↔ ¬label.isEmpty = true ∧ Text.trim text = label := by
  simp only [labelOf?, Option.ite_none_left_eq_some, Option.some_inj]
  constructor
  · rintro ⟨notBlank, rfl⟩
    exact ⟨notBlank, rfl⟩
  · rintro ⟨notBlank, rfl⟩
    exact ⟨notBlank, rfl⟩

/-- The arcs that are kept of a clause when a further one is read after those kept so far. -/
def keepArc (kept : List (ArcKind × String)) (arc : ArcKind × String) :
    List (ArcKind × String) :=
  match labelOf? arc.2 with
  | none => kept
  | some label =>
    if (arc.1, label) ∈ kept ∨
        ∃ other ∈ kept, other.2 = label ∧ Builder.contradicts other.1 arc.1 = true then kept
    else kept ++ [(arc.1, label)]

namespace Statement

/-- The labels of the places in a statement, in order. -/
def mentioned : Statement → List String
  | factual places => places.filterMap labelOf?
  | clause _ arcs => arcs.filterMap fun arc => labelOf? arc.2

/-- The labels of the places that a statement marks at the start. -/
def facts : Statement → List String
  | factual places => places.filterMap labelOf?
  | clause _ _ => []

/-- The label of the transition instance that a statement makes, and its arcs. -/
def transition? : Statement → Option (String × List (ArcKind × String))
  | factual _ => none
  | clause transition arcs => (labelOf? transition).map fun label => (label, arcs.foldl keepArc [])

end Statement

/-- What a net contains: the places by all mentions of their labels, and the transition
instances with their arcs. -/
structure Contents where
  mentioned : List String := []
  facts : List String := []
  instances : List (String × List (ArcKind × String)) := []

namespace Contents

/-- The contents and what statements add to them. -/
def add (contents : Contents) (statements : List Statement) : Contents where
  mentioned := contents.mentioned ++ statements.flatMap Statement.mentioned
  facts := contents.facts ++ statements.flatMap Statement.facts
  instances := contents.instances ++ statements.filterMap Statement.transition?

theorem add_singleton (contents : Contents) (statement : Statement) :
    contents.add [statement] =
      { mentioned := contents.mentioned ++ statement.mentioned
        facts := contents.facts ++ statement.facts
        instances := contents.instances ++ statement.transition?.toList } := by
  cases made : statement.transition? <;> simp [add, made]

theorem add_cons (contents : Contents) (statement : Statement) (statements : List Statement) :
    contents.add (statement :: statements) = (contents.add [statement]).add statements := by
  cases made : statement.transition? <;> simp [add, made]

/-- The contents with further mentions. -/
def mention (contents : Contents) (labels : List String) : Contents :=
  { contents with mentioned := contents.mentioned ++ labels }

/-- The contents with further facts, which are mentions as well. -/
def assert (contents : Contents) (labels : List String) : Contents :=
  { contents.mention labels with facts := contents.facts ++ labels }

/-- The places: one for every label, where it is mentioned first. -/
def places (contents : Contents) : List Place :=
  contents.mentioned.eraseDups.map fun name => { name, factual := decide (name ∈ contents.facts) }

/-- The arcs of the instances, instance after instance. -/
def arcs (contents : Contents) : List (TransitionId × ArcKind × String) :=
  contents.instances.zipIdx.flatMap fun entry => entry.1.2.map fun arc => (entry.2, arc)

variable {contents : Contents}

theorem names_places (contents : Contents) :
    contents.places.map Place.name = contents.mentioned.eraseDups := by
  simp only [places, List.map_map, Function.comp_def, List.map_id']

/-- A further mention is a new place or changes nothing. -/
theorem places_mention (contents : Contents) (label : String) :
    (contents.mention [label]).places =
      if label ∈ contents.mentioned then contents.places
      else contents.places ++ [{ name := label, factual := decide (label ∈ contents.facts) }] := by
  have names : (contents.mention [label]).mentioned.eraseDups =
      if label ∈ contents.mentioned then contents.mentioned.eraseDups
      else contents.mentioned.eraseDups ++ [label] := Net.WellBuilt.eraseDups_concat
  rw [places, names]
  split
  · rfl
  · exact List.map_append

/-- A mention that is stated as a fact marks the place of its label. -/
theorem places_assert (contents : Contents) (label : String) :
    { contents with facts := contents.facts ++ [label] }.places =
      contents.places.map fun place =>
        if place.name = label then { place with factual := true } else place := by
  simp only [places, List.map_map]
  refine List.map_congr_left ?_
  intro name _
  by_cases same : name = label
  · simp [same]
  · simp [same]

/-- The arcs of an instance are those of its clause. -/
theorem mem_arcs {transition : TransitionId} {arc : ArcKind × String} :
    (transition, arc) ∈ contents.arcs ↔
      ∃ name kept, contents.instances[transition]? = some (name, kept) ∧ arc ∈ kept := by
  simp only [arcs, List.mem_flatMap, List.mem_map, Prod.mk.injEq, Prod.exists,
    List.mem_zipIdx_iff_getElem?]
  constructor
  · rintro ⟨name, kept, position, found, kind, label, listed, rfl, rfl⟩
    exact ⟨name, kept, found, listed⟩
  · rintro ⟨name, kept, found, listed⟩
    exact ⟨name, kept, transition, found, arc.1, arc.2, listed, rfl, rfl⟩

/-- A further instance brings its arcs along. -/
theorem arcs_concat (mentioned facts : List String)
    (instances : List (String × List (ArcKind × String))) (name : String)
    (kept : List (ArcKind × String)) :
    arcs { mentioned, facts, instances := instances ++ [(name, kept)] } =
      arcs { mentioned, facts, instances } ++ kept.map fun arc => (instances.length, arc) := by
  simp only [arcs, List.zipIdx_append, List.flatMap_append, Nat.zero_add, List.zipIdx_singleton,
    List.flatMap_singleton]

end Contents

end EventNet
