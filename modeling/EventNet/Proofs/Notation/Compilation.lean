import EventNet.Proofs.Build.Conflicts
import EventNet.Proofs.Notation.Regions
import Mathlib.Data.Set.List

/-!
# What a compiled text can be blamed for

The labels of a source text are runs of label characters, which are not blank, so its
statements are tidy and the only faults that can come from building are conflicts between the
arcs of one statement (`compile_conflicts`).

Each of them is reported with a line. To say which line that has to be, the place where a
statement stands is given as a `Site`: a statement is one of those of a sentence of the text,
and the line is that of the first word of this sentence. The table of lines that a reading has
beside its statements leads to this line (`Site.lines_eq`), however many statements a sentence
stands for and whatever faulty stretches lie between.
-/

set_option autoImplicit false

namespace EventNet.Notation

/-! ## Names -/

/-- The code points of the blank characters. -/
def blankCodes : List Nat :=
  List.range' 0x09 5 ++ List.range' 0x2000 11 ++
    [0x20, 0x85, 0xA0, 0x1680, 0x2028, 0x2029, 0x202F, 0x205F, 0x3000]

theorem mem_blankCodes {c : Char} (blank : Text.isBlank c = true) : c.toNat ∈ blankCodes := by
  simp only [Text.isBlank, Bool.or_eq_true, Bool.and_eq_true, decide_eq_true_eq,
    beq_iff_eq] at blank
  simp only [blankCodes, List.mem_append, List.mem_range'_1, List.mem_cons, List.not_mem_nil,
    or_false]
  omega

theorem not_isLabelChar_of_isBlank {c : Char} (blank : Text.isBlank c = true) :
    isLabelChar c = false := by
  have none : ∀ code ∈ blankCodes, isLabelChar (Char.ofNat code) = false := by decide +kernel
  rw [← Char.ofNat_toNat c]
  exact none _ (mem_blankCodes blank)

theorem dropWhile_isBlank {text : List Char} (inLabel : ∀ c ∈ text, isLabelChar c = true) :
    text.dropWhile Text.isBlank = text := by
  cases text with
  | nil => rfl
  | cons c text =>
    refine List.dropWhile_cons_of_neg fun blank => ?_
    have other := not_isLabelChar_of_isBlank blank
    rw [inLabel c (List.mem_cons_self ..)] at other
    cases other

/-- Nothing is trimmed from a name. -/
theorem IsName.isTidy {name : String} (isName : IsName name) : IsTidy name := by
  obtain ⟨nonempty, inLabel⟩ := isName
  constructor
  · have backwards : ∀ c ∈ name.toList.reverse, isLabelChar c = true := fun c member =>
      inLabel c (List.mem_reverse.1 member)
    rw [Text.trim, Text.trimChars, dropWhile_isBlank inLabel, dropWhile_isBlank backwards,
      List.reverse_reverse, String.ofList_toList]
  · rintro rfl
    exact nonempty rfl

theorem IsLabel.isName {name : String} {text : List Char} (isLabel : IsLabel name text) :
    IsName name := by
  obtain ⟨-, isName⟩ := isLabel
  exact isName

theorem IsTransition.isName {name : String} {text : List Char}
    (isTransition : IsTransition name text) : IsName name := by
  obtain ⟨-, isName⟩ := isTransition
  exact isName

theorem IsList.items {IsItem : String → List Char → Prop} {items : List String}
    {text : List Char} (isList : IsList IsItem items text)
    (isName : ∀ {name : String} {spelled : List Char}, IsItem name spelled → IsName name) :
    items ≠ [] ∧ ∀ item ∈ items, IsName item := by
  refine ⟨by cases isList <;> simp, ?_⟩
  induction isList with
  | last isItem => exact List.forall_mem_singleton.2 (isName isItem)
  | more isItem _ _ ih => exact List.forall_mem_cons.2 ⟨isName isItem, ih⟩

theorem IsPlacesAfter.isName {sign : List Char} {labels : List String} {text : List Char}
    (isPart : IsPlacesAfter sign labels text) : ∀ label ∈ labels, IsName label := by
  obtain ⟨-, isPlaces⟩ := isPart
  exact (isPlaces.items IsLabel.isName).2

theorem IsPlacesBefore.isName {sign : List Char} {labels : List String} {text : List Char}
    (isPart : IsPlacesBefore sign labels text) : labels ≠ [] ∧ ∀ label ∈ labels, IsName label := by
  obtain ⟨isPlaces, -⟩ := isPart
  exact isPlaces.items IsLabel.isName

theorem IsOptional.isName {IsPart : List String → List Char → Prop} {labels : List String}
    {text : List Char} (isOptional : IsOptional IsPart labels text)
    (part : IsPart labels text → ∀ label ∈ labels, IsName label) :
    ∀ label ∈ labels, IsName label := by
  cases isOptional with
  | absent => simp
  | present isPart => exact part isPart

theorem Opening.Spells.isName {opening : Opening} {text : List Char}
    (spells : opening.Spells text) : ∀ arc ∈ opening.arcs, IsName arc.2 := by
  cases spells with
  | bare => simp [arcs]
  | arrow isConsumed isCatalysts _ isInhibitors =>
    have consumed := isConsumed.isName fun part => (part.items IsLabel.isName).2
    have catalysts := isCatalysts.isName IsPlacesAfter.isName
    have inhibitors := isInhibitors.isName fun part => part.isName.2
    intro arc listed
    simp only [arcs, List.mem_append, List.mem_map] at listed
    obtain (⟨label, asked, rfl⟩ | ⟨label, asked, rfl⟩) | ⟨label, asked, rfl⟩ := listed
    · exact consumed label asked
    · exact catalysts label asked
    · exact inhibitors label asked
  | inhibition isInhibitors => exact List.forall_mem_map.2 isInhibitors.isName.2

/-- **All labels of a sentence are names**, and it names a place or a transition. -/
theorem Sentence.Spells.all {sentence : Sentence} {text : List Char}
    (spells : sentence.Spells text) : ∀ statement ∈ sentence.statements, statement.All IsName := by
  cases spells with
  | factual isBefore => exact List.forall_mem_singleton.2 isBefore.isName
  | clause isOpening isTransitions isProducts _ =>
    have products := isProducts.isName IsPlacesAfter.isName
    refine List.forall_mem_map.2 fun transition named =>
      ⟨(isTransitions.items IsTransition.isName).2 transition named, ?_⟩
    exact List.forall_mem_append.2 ⟨isOpening.isName, List.forall_mem_map.2 products⟩

/-- The statements of a text have names for labels. -/
theorem Reads.all {position : Position} {text : List Char} {regions : List Region}
    (told : Reads position text regions) :
    ∀ statement ∈ regions.flatMap Region.statements, statement.All IsName := by
  induction told with
  | layout => simp
  | sentence _ _ spells _ ih => exact List.forall_mem_append.2 ⟨spells.all, ih⟩
  | fault _ _ _ _ _ _ ih => exact ih

/-! ## Places of statements -/

/-- Where a statement of a text stands: the text in front of the sentence that it is one of,
the sentence itself, from its first word on, and the text behind it. -/
structure Site (source : String) (index : Nat) where
  before : List Char
  word : List Char
  rest : List Char
  sentence : Sentence
  /-- The regions in front of the sentence. -/
  earlier : List Region
  /-- Which one of the statements of the sentence it is. -/
  offset : Nat
  text_eq : source.toList = before ++ (word ++ rest)
  begins : Begins word
  spells : sentence.Spells word
  regions_eq : regions source =
    earlier ++ .accepted (({} : Position).after before) sentence.statements ::
      regionsFrom (({} : Position).after (before ++ word)) rest
  index_eq : index = (earlier.flatMap Region.statements).length + offset
  inside : offset < sentence.statements.length

namespace Site

variable {source : String} {index : Nat}

/-- The line in which the first word of the sentence stands. -/
def line (site : Site source index) : Nat := site.before.count '\n' + 1

end Site

/-- In the text there is a sentence with these statements at the place `start`, and the later
regions are what is read behind it. -/
def StandsIn (position : Position) (text : List Char) (start : Position)
    (statements : List Statement) (later : List Region) : Prop :=
  ∃ (sentence : Sentence) (before word rest : List Char), text = before ++ (word ++ rest) ∧
    Begins word ∧ sentence.Spells word ∧ statements = sentence.statements ∧
      start = position.after before ∧ later = regionsFrom (position.after (before ++ word)) rest

section StandsIn

variable {position start : Position} {text : List Char} {statements : List Statement}
  {later : List Region}

theorem StandsIn.behind {first : List Char}
    (stands : StandsIn (position.after first) text start statements later) :
    StandsIn position (first ++ text) start statements later := by
  obtain ⟨sentence, before, word, rest, rfl, begins, spells, same, rfl, rfl⟩ := stands
  refine ⟨sentence, first ++ before, word, rest, (List.append_assoc _ _ _).symm, begins, spells,
    same, (Position.after_append _ _ _).symm, ?_⟩
  rw [← Position.after_append, List.append_assoc]

/-- **What is read as a sentence stands in the text**, at the place that is kept for it. -/
theorem Reads.standsIn {regions earlier : List Region} (told : Reads position text regions)
    (split : regions = earlier ++ .accepted start statements :: later) :
    StandsIn position text start statements later := by
  induction told generalizing earlier with
  | layout => exact absurd split (by simp)
  | @sentence position gap word rest sentence regions _ begins spells told ih =>
    cases earlier with
    | nil =>
      obtain ⟨same, rfl⟩ := List.cons.inj split
      obtain ⟨rfl, rfl⟩ := Region.accepted.inj same
      exact ⟨sentence, gap, word, rest, rfl, begins, spells, rfl, rfl, told.eq⟩
    | cons region earlier =>
      rw [← List.append_assoc]
      exact (ih (List.cons.inj split).2).behind
  | fault _ _ _ _ _ _ ih =>
    cases earlier with
    | nil => cases (List.cons.inj split).1
    | cons region earlier =>
      rw [← List.append_assoc]
      exact (ih (List.cons.inj split).2).behind

end StandsIn

/-- A statement is one of those of a region. -/
theorem exists_region {regions : List Region} {index : Nat} {statement : Statement}
    (found : (regions.flatMap Region.statements)[index]? = some statement) :
    ∃ (earlier later : List Region) (start : Position) (statements : List Statement)
      (offset : Nat), regions = earlier ++ .accepted start statements :: later ∧
        index = (earlier.flatMap Region.statements).length + offset ∧
          offset < statements.length := by
  induction regions generalizing index with
  | nil => simp at found
  | cons region regions ih =>
    rw [List.flatMap_cons] at found
    by_cases inside : index < region.statements.length
    · cases region with
      | accepted start statements =>
        exact ⟨[], regions, start, statements, index, rfl, (Nat.zero_add _).symm, inside⟩
      | rejected error => exact absurd inside (Nat.not_lt_zero _)
    · rw [List.getElem?_append_right (Nat.not_lt.1 inside)] at found
      obtain ⟨earlier, later, start, statements, offset, rfl, same, inRegion⟩ := ih found
      refine ⟨region :: earlier, later, start, statements, offset, rfl, ?_, inRegion⟩
      rw [List.flatMap_cons, List.length_append]
      omega

/-- **Every statement of a text stands somewhere in it.** -/
theorem exists_site {source : String} {index : Nat} {statement : Statement}
    (found : (read source).statements[index]? = some statement) :
    Nonempty (Site source index) := by
  obtain ⟨earlier, later, start, statements, offset, split, same, inside⟩ := exists_region found
  obtain ⟨sentence, before, word, rest, whole, begins, spells, rfl, rfl, rfl⟩ :=
    (reads {} source.toList).standsIn split
  exact ⟨⟨before, word, rest, sentence, earlier, offset, whole, begins, spells, split, same,
    inside⟩⟩

theorem Region.length_lines (region : Region) : region.lines.length = region.statements.length := by
  cases region with
  | accepted => exact List.length_map _
  | rejected => rfl

/-- The table of lines leads to the line of the first word of the sentence. -/
theorem Site.lines_eq {source : String} {index : Nat} (site : Site source index) :
    (read source).lines[index]? = some site.line := by
  have aligned : (site.earlier.flatMap Region.lines).length =
      (site.earlier.flatMap Region.statements).length := by
    simp only [List.length_flatMap, Region.length_lines]
  have index_eq := site.index_eq
  have offset : index - (site.earlier.flatMap Region.statements).length = site.offset := by omega
  have start : (({} : Position).after site.before).line = site.line := by
    rw [Position.line_after, Nat.add_comm]
    rfl
  simp only [read, site.regions_eq, List.flatMap_append, List.flatMap_cons]
  rw [List.getElem?_append_right (by omega), aligned, offset,
    List.getElem?_append_left (by rw [Region.length_lines]; exact site.inside)]
  simp only [Region.lines, List.getElem?_map, List.getElem?_eq_getElem site.inside,
    Option.map_some, start]

/-! ## Conflicts of a text -/

/-- A conflict within a statement of a text, and where the statement stands. -/
structure SourceConflict (source : String) where
  conflict : Conflict
  concerns : conflict.Concerns (read source).statements
  site : Site source conflict.index

/-- The report about a conflict of a text. -/
def SourceConflict.diagnostic {source : String} (found : SourceConflict source) : Diagnostic :=
  .unbuilt (some found.site.line) found.conflict.error

/-- **Only conflicts come from building what has been read**: the names of the net are names of
the notation, and all that is reported beside the faulty stretches, and behind them, are
conflicts between the arcs of one statement, in the order of the statements and each with the
line in which the sentence of its statement starts. -/
theorem compile_conflicts (source : String) :
    (compile source).net.Named IsName ∧
      ∃ conflicts : List (SourceConflict source),
        (compile source).diagnostics =
            (read source).errors.map .unread ++ conflicts.map SourceConflict.diagnostic ∧
          (conflicts.map fun found => found.conflict.index).Pairwise (· ≤ ·) := by
  have names : ∀ statement ∈ (read source).statements, statement.All IsName :=
    (reads {} source.toList).all
  obtain ⟨named, conflicts, errors, ordered, concern⟩ :=
    Builder.ofStatements_conflicts (fun _ isName => isName.isTidy) names
  have stand : ∀ conflict ∈ conflicts,
      conflict ∈ Set.range (SourceConflict.conflict : SourceConflict source → Conflict) := by
    intro conflict listed
    obtain ⟨arcs, found, isIn⟩ := concern conflict listed
    obtain ⟨site⟩ := exists_site found
    exact ⟨⟨conflict, ⟨arcs, found, isIn⟩, site⟩, rfl⟩
  obtain ⟨located, rfl⟩ : conflicts ∈ Set.range (List.map SourceConflict.conflict) := by
    rw [Set.range_list_map]
    exact stand
  rw [List.map_map] at errors ordered
  refine ⟨named, located, ?_, ordered⟩
  have diagnostic (found : SourceConflict source) :
      Diagnostic.unbuilt (found.conflict.error.index.bind fun index => (read source).lines[index]?)
        found.conflict.error = found.diagnostic :=
    congrArg (Diagnostic.unbuilt · _) found.site.lines_eq
  simp only [compile, errors, List.map_map, Function.comp_def, diagnostic]

/-- The sentence starts in the second line and stands for two clauses, of which each has the
conflict. -/
example :
    (compile "b c.\n a:a ->\n #t, % #s.\n #u.").diagnostics.map Diagnostic.text =
      ["syntax error at 1:1: unrecognised statement \x60b c\x60",
        "line 2: place 'a' declared as catalyst conflicts with an earlier consume arc on 't'",
        "line 2: place 'a' declared as catalyst conflicts with an earlier consume arc on 'u'"] := by
  decide +kernel

end EventNet.Notation
