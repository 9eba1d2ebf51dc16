import EventNet.Proofs.Build.Holds

/-!
# The places of a net

Every text in a statement that should be the label of a place mentions one, unless it is blank:
also in a clause that names no transition, and also where it makes no arc. A label has one place,
and the places stand in the order in which their labels are mentioned first. A place is factual,
and so marked at the start, if a factual statement mentions it, wherever this statement stands
(`Net.PlacedBy`).

What is kept and what is left out of the places is decided in `Contents.places`, by which
mentions are repeated. That the first mentions come out in their order is a property of
`List.eraseDups` (`pairwise_idxOf_eraseDups`).
-/

set_option autoImplicit false

namespace EventNet

/-! ## Mentions -/

/-- The texts in a statement that should be labels of places, in order. -/
def Statement.texts : Statement → List String
  | factual places => places
  | clause _ arcs => arcs.map Prod.snd

/-- All mentions of places, in order: what is left of the texts when they are trimmed. -/
def mentions (statements : List Statement) : List String :=
  ((statements.flatMap Statement.texts).map Text.trim).filter fun label => label != ""

/-- A factual statement mentions the label. -/
def IsFact (statements : List Statement) (label : String) : Prop :=
  ∃ places, Statement.factual places ∈ statements ∧ label ∈ places.map Text.trim

theorem filterMap_labelOf? (texts : List String) :
    texts.filterMap labelOf? = (texts.map Text.trim).filter fun label => label != "" := by
  rw [← List.filterMap_eq_filter, List.filterMap_map]
  refine List.filterMap_congr ?_
  intro text _
  by_cases blank : Text.trim text = ""
  · simp [labelOf?, Option.guard, blank]
  · simp [labelOf?, Option.guard, blank]

theorem mentioned_eq (statement : Statement) :
    statement.mentioned = statement.texts.filterMap labelOf? := by
  cases statement with
  | factual places => rfl
  | clause transition arcs =>
    rw [Statement.mentioned, Statement.texts, List.filterMap_map, Function.comp_def]

theorem mentions_eq (statements : List Statement) :
    mentions statements = statements.flatMap Statement.mentioned := by
  rw [mentions, ← filterMap_labelOf?, List.filterMap_flatMap]
  exact congrArg (fun part => statements.flatMap part) (funext fun statement =>
    (mentioned_eq statement).symm)

/-- A label that is no blank text is a fact of the statements if one of them states it. -/
theorem mem_facts_iff {statements : List Statement} {label : String} (notBlank : label ≠ "") :
    label ∈ statements.flatMap Statement.facts ↔ IsFact statements label := by
  rw [List.mem_flatMap, IsFact]
  constructor
  · rintro ⟨statement, listed, stated⟩
    cases statement with
    | factual places =>
      rw [Statement.facts, filterMap_labelOf?] at stated
      exact ⟨places, listed, List.mem_of_mem_filter stated⟩
    | clause transition arcs => exact absurd stated List.not_mem_nil
  · rintro ⟨places, listed, stated⟩
    refine ⟨.factual places, listed, ?_⟩
    rw [Statement.facts, filterMap_labelOf?]
    exact List.mem_filter.2 ⟨stated, bne_iff_ne.2 notBlank⟩

/-- Names without repetitions stand in the order of their first occurrences. -/
theorem pairwise_idxOf_eraseDups (names : List String) :
    names.eraseDups.Pairwise fun earlier later => names.idxOf earlier < names.idxOf later := by
  induction names using List.reverseRecOn with
  | nil => exact List.Pairwise.nil
  | append_singleton names last ih =>
    have before {name : String} (listed : name ∈ names.eraseDups) :
        (names ++ [last]).idxOf name = names.idxOf name :=
      List.idxOf_append_of_mem (List.mem_eraseDups.1 listed)
    have older : names.eraseDups.Pairwise fun earlier later =>
        (names ++ [last]).idxOf earlier < (names ++ [last]).idxOf later := by
      refine ih.imp_of_mem ?_
      intro earlier later first second less
      rwa [before first, before second]
    rw [Net.WellBuilt.eraseDups_concat]
    split
    · exact older
    · rename_i new
      refine List.pairwise_append.2 ⟨older, List.pairwise_singleton _ _, ?_⟩
      intro name listed other isLast
      rw [List.mem_singleton.1 isLast, before listed, List.idxOf_append_of_notMem new,
        List.idxOf_cons_self]
      exact List.idxOf_lt_length_of_mem (List.mem_eraseDups.1 listed)

/-! ## Places -/

/-- The places of a net are those that the statements mention. -/
structure Net.PlacedBy (net : Net) (statements : List Statement) : Prop where
  /-- No label has two places. -/
  names_nodup : (net.places.map Place.name).Nodup
  /-- A label has a place if it is mentioned anywhere, and only then. -/
  mem_names_iff : ∀ label, label ∈ net.places.map Place.name ↔ label ∈ mentions statements
  /-- The places stand in the order in which they are mentioned first. -/
  first_mentions : (net.places.map Place.name).Pairwise fun earlier later =>
    (mentions statements).idxOf earlier < (mentions statements).idxOf later
  /-- A place is factual if some statement says so, before or after the other mentions. -/
  factual_iff : ∀ place ∈ net.places, (place.factual = true ↔ IsFact statements place.name)
  /-- These places are marked at the start. -/
  marked_iff : ∀ (id : PlaceId) (name : String), net.placeName? id = some name →
    ((Marking.initial net).isMarked id = true ↔ IsFact statements name)

namespace Contents

variable (statements : List Statement)

theorem names_of_statements :
    ((add {} statements).places).map Place.name = (mentions statements).eraseDups := by
  have mentioned : (add {} statements).mentioned = mentions statements :=
    (List.nil_append _).trans (mentions_eq statements).symm
  rw [names_places, mentioned]

theorem factual_iff_isFact {place : Place} (listed : place ∈ (add {} statements).places) :
    place.factual = true ↔ IsFact statements place.name := by
  have mentioned : place.name ∈ mentions statements := by
    rw [← List.mem_eraseDups, ← names_of_statements]
    exact List.mem_map_of_mem listed
  have notBlank : place.name ≠ "" := bne_iff_ne.1 (List.mem_filter.1 mentioned).2
  obtain ⟨name, -, rfl⟩ := List.mem_map.1 listed
  rw [decide_eq_true_eq]
  exact mem_facts_iff notBlank

end Contents

/-- **The places of a net are the labels that the statements mention**, in the order of their
first mentions, and those are factual that a factual statement mentions anywhere. -/
theorem Builder.ofStatements_placedBy (statements : List Statement) :
    (ofStatements statements).net.PlacedBy statements := by
  have holds := holds_ofStatements statements
  have names : (ofStatements statements).net.places.map Place.name =
      (mentions statements).eraseDups := by
    rw [holds.places_eq, Contents.names_of_statements]
  have factual_iff : ∀ place ∈ (ofStatements statements).net.places,
      (place.factual = true ↔ IsFact statements place.name) := by
    intro place listed
    rw [holds.places_eq] at listed
    exact Contents.factual_iff_isFact statements listed
  refine ⟨holds.sound.wellBuilt.place_names_nodup, ?_, ?_, factual_iff, ?_⟩
  · intro label
    rw [names, List.mem_eraseDups]
  · rw [names]
    exact pairwise_idxOf_eraseDups _
  · intro id name named
    obtain ⟨place, found, rfl⟩ := Option.map_eq_some_iff.1 named
    rw [← factual_iff place (List.mem_of_getElem? found), Marking.isMarked, Marking.initial,
      List.getElem?_map, found, Option.map_some, Option.getD_some]

/-- The first clause names no transition, and the second has an arc that contradicts another. The
place `a` is stated as a fact behind both. -/
example : (Builder.ofStatements [.clause " " [(.consume, "b ")],
    .clause "t" [(.consume, "c"), (.inhibit, " a"), (.catalyst, "c"), (.produce, "")],
    .factual ["b", "a"]]).net.places = [⟨"b", true⟩, ⟨"c", false⟩, ⟨"a", true⟩] := by
  decide +kernel

end EventNet
