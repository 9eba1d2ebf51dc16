import EventNet.Proofs.Notation.Offsets
import Mathlib.Logic.Relation

/-!
# Reading in rounds

A text is read in rounds, each of which skips layout and then reads a region, and notes what it
says before the next one starts (`Progress.round?`). Layout is skipped piece by piece, where a
piece that took up nothing would be a failure (`skipPieces?`); there is none, and what is left is
what `skipLayout` leaves (`skipPieces?_eq`).

A round takes something off the text, and what it takes off is layout and then a region for which
it notes statements or an error (`Round`, `round_of_leadsTo`). By induction over the regions of a
text, where sentences and faulty stretches are one case (`Reads.region_induction`), the rounds come
to an end where nothing but layout is left (`Reads.exists_run`), and then they have noted all that
the text says (`read_accounts`).
-/

set_option autoImplicit false

namespace EventNet.Notation

/-! ## Skipping layout piece by piece -/

/-- The text behind the piece of layout that it starts with: a run of spaces or a comment. -/
def afterPiece? : List Char → Option (List Char)
  | [] => none
  | c :: rest =>
    if isSpace c then some (rest.dropWhile isSpace)
    else if c = '%' then afterComment? rest
    else none

/-- Skips pieces of layout as long as there are any. A piece that takes up nothing is a
failure. -/
def skipPieces? (text : List Char) : Option (List Char) :=
  match afterPiece? text with
  | none => some text
  | some rest => if rest.length < text.length then skipPieces? rest else none
  termination_by text.length

/-- **A piece of layout takes something up.** -/
theorem length_afterPiece? {text rest : List Char} (found : afterPiece? text = some rest) :
    rest.length < text.length := by
  fun_cases afterPiece? text with
  | case1 => cases found
  | case2 c others space =>
    rw [afterPiece?, if_pos space] at found
    cases found
    exact Nat.lt_succ_of_le (List.dropWhile_suffix _).length_le
  | case3 others noSpace =>
    rw [afterPiece?, if_neg noSpace, if_pos rfl] at found
    exact Nat.lt_succ_of_le (length_afterComment? found)
  | case4 c others noSpace noComment =>
    rw [afterPiece?, if_neg noSpace, if_neg noComment] at found
    cases found

theorem skipLayout_dropWhile (text : List Char) :
    skipLayout (text.dropWhile isSpace) = skipLayout text := by
  induction text with
  | nil => rfl
  | cons c text ih =>
    by_cases space : isSpace c = true
    · rw [List.dropWhile_cons_of_pos space, ih, skipLayout_space space]
    · rw [List.dropWhile_cons_of_neg space]

theorem skipLayout_afterPiece? {text rest : List Char} (found : afterPiece? text = some rest) :
    skipLayout text = skipLayout rest := by
  fun_cases afterPiece? text with
  | case1 => cases found
  | case2 c others space =>
    rw [afterPiece?, if_pos space] at found
    cases found
    rw [skipLayout_dropWhile, skipLayout_space space]
  | case3 others noSpace =>
    rw [afterPiece?, if_neg noSpace, if_pos rfl] at found
    exact skipLayout_comment found
  | case4 c others noSpace noComment =>
    rw [afterPiece?, if_neg noSpace, if_neg noComment] at found
    cases found

theorem skipLayout_of_no_piece {text : List Char} (none : afterPiece? text = none) :
    skipLayout text = text := by
  fun_cases afterPiece? text with
  | case1 => rw [skipLayout]
  | case2 c others space =>
    rw [afterPiece?, if_pos space] at none
    cases none
  | case3 others noSpace =>
    rw [afterPiece?, if_neg noSpace, if_pos rfl] at none
    exact skipLayout_percent none
  | case4 c others noSpace noComment => exact skipLayout_word (by simpa using noSpace) noComment

/-- **Skipping layout never fails**, and it leaves what stands behind all layout. -/
theorem skipPieces?_eq (text : List Char) : skipPieces? text = some (skipLayout text) := by
  fun_induction skipPieces? text with
  | case1 text none => rw [skipLayout_of_no_piece none]
  | case2 text rest found shorter ih => rw [ih, skipLayout_afterPiece? found]
  | case3 text rest found longer => exact absurd (length_afterPiece? found) longer

/-- No piece of layout is left. -/
theorem afterPiece?_skipLayout (text : List Char) : afterPiece? (skipLayout text) = none := by
  fun_induction skipPieces? text with
  | case1 text none => rwa [skipLayout_of_no_piece none]
  | case2 text rest found shorter ih => rwa [skipLayout_afterPiece? found]
  | case3 text rest found longer => exact absurd (length_afterPiece? found) longer

/-! ## Rounds -/

/-- What a reading says together with a further region. -/
def Reading.add (reading : Reading) (region : Region) : Reading where
  statements := reading.statements ++ region.statements
  lines := reading.lines ++ region.lines
  errors := reading.errors ++ region.error?.toList

/-- How far reading has come: what is left of the text, and what has been read. -/
structure Progress where
  rest : List Char
  reading : Reading

namespace Progress

/-- Nothing has been read yet. -/
def start (source : String) : Progress :=
  { rest := source.toList, reading := { statements := [], lines := [], errors := [] } }

/-- One round. There is none if nothing but layout is left, or if the text cannot be cut where
the region starts. -/
def round? (source : String) (progress : Progress) : Option Progress :=
  let begun := (skipPieces? progress.rest).getD progress.rest
  if begun = [] then none
  else (placeOf? source begun).map fun start =>
    let read := firstRegion start begun
    { rest := read.2, reading := progress.reading.add read.1 }

/-- A round leads from one to the other. -/
def LeadsTo (source : String) (progress next : Progress) : Prop :=
  progress.round? source = some next

end Progress

/-- What a round may do. It passes over layout and then over a region, which takes up
something; and it notes the statements of the region, each with the line in which the region
starts, or one error. -/
inductive Round (source : String) (progress : Progress) : Progress → Prop where
  | statements {gap word rest : List Char} {place : Position} {sentence : Sentence} :
      progress.rest = gap ++ (word ++ rest) → IsLayout gap → word ≠ [] →
        placeOf? source (word ++ rest) = some place →
          sentence.Spells word → sentence.statements ≠ [] →
            Round source progress
              { rest
                reading :=
                  { statements := progress.reading.statements ++ sentence.statements
                    lines := progress.reading.lines ++
                      List.replicate sentence.statements.length place.line
                    errors := progress.reading.errors } }
  | error {gap word rest : List Char} {place : Position} :
      progress.rest = gap ++ (word ++ rest) → IsLayout gap → word ≠ [] →
        placeOf? source (word ++ rest) = some place → statement (word ++ rest) = none →
          Round source progress
            { rest
              reading :=
                { statements := progress.reading.statements
                  lines := progress.reading.lines
                  errors := progress.reading.errors ++ [rejection place (word ++ rest)] } }

/-- A sentence stands for at least one statement. -/
theorem Sentence.Spells.statements_ne_nil {sentence : Sentence} {text : List Char}
    (spells : sentence.Spells text) : sentence.statements ≠ [] := by
  cases spells with
  | factual => exact List.cons_ne_nil _ _
  | clause _ isTransitions _ _ =>
    cases isTransitions <;> simp [Sentence.statements]

theorem Reading.add_accepted (reading : Reading) (place : Position)
    (statements : List Statement) :
    reading.add (.accepted place statements) =
      { statements := reading.statements ++ statements
        lines := reading.lines ++ List.replicate statements.length place.line
        errors := reading.errors } := by
  simp only [add, Region.statements, Region.lines, Region.error?, Option.toList_none,
    List.append_nil, List.map_const']

theorem Reading.add_rejected (reading : Reading) (error : SyntaxError) :
    reading.add (.rejected error) =
      { statements := reading.statements
        lines := reading.lines
        errors := reading.errors ++ [error] } := by
  simp only [add, Region.statements, Region.lines, Region.error?, Option.toList_some,
    List.append_nil]

section

variable {source : String} {progress next : Progress}

/-- **What a round does**, in whatever state it finds the reading. -/
theorem round_of_leadsTo (leads : progress.LeadsTo source next) : Round source progress next := by
  obtain ⟨left, reading⟩ := progress
  unfold Progress.LeadsTo Progress.round? at leads
  simp only [skipPieces?_eq, Option.getD_some, Option.ite_none_left_eq_some,
    Option.map_eq_some_iff] at leads
  obtain ⟨more, place, found, rfl⟩ := leads
  obtain ⟨gap, layout, whole⟩ := exists_gap left more
  have begun := skipLayout_skipLayout left
  generalize skipLayout left = body at *
  cases read : statement body with
  | none =>
    obtain ⟨passed, split, nonempty⟩ := exists_passed more
    simp only [firstRegion, read, Reading.add_rejected]
    generalize recover body = rest at *
    subst split
    exact .error whole layout nonempty found read
  | some result =>
    obtain ⟨statements, rest⟩ := result
    obtain ⟨sentence, word, rfl, spells, rfl⟩ := spells_of_statement read
    simp only [firstRegion, read, Reading.add_accepted]
    exact .statements whole layout (spells.begins begun).ne_nil found spells
      spells.statements_ne_nil

/-- **A round shortens what is left of the text.** -/
theorem Round.length_lt (round : Round source progress next) :
    next.rest.length < progress.rest.length := by
  cases round with
  | statements whole _ nonempty | error whole _ nonempty =>
    have := List.length_pos_iff.2 nonempty
    rw [whole, List.length_append, List.length_append]
    dsimp only
    omega

end

/-! ## All rounds of a text -/

/-- The cases in which a text is read, with one of them for sentences and faulty stretches: behind
layout the text goes on with its first region, which takes something up. -/
@[elab_as_elim]
theorem Reads.region_induction
    {motive : (position : Position) → (text : List Char) → (regions : List Region) →
      Reads position text regions → Prop}
    (layout : ∀ position text (last : IsLastLayout text), motive position text [] (.layout last))
    (region : ∀ position gap word rest region regions
      (later : Reads (position.after (gap ++ word)) rest regions)
      (told : Reads position (gap ++ (word ++ rest)) (region :: regions)),
      IsLayout gap → word ≠ [] → skipLayout (word ++ rest) = word ++ rest →
        firstRegion (position.after gap) (word ++ rest) = (region, rest) →
          motive _ _ _ later → motive _ _ _ told)
    {position : Position} {text : List Char} {regions : List Region}
    (told : Reads position text regions) : motive position text regions told := by
  induction told with
  | layout last => exact layout _ _ last
  | sentence isLayout begins spells later ih =>
    refine region _ _ _ _ _ _ later _ isLayout begins.ne_nil (begins.append _).skipLayout_eq ?_ ih
    simp only [firstRegion, statement_of_spells spells]
  | fault isLayout nonempty begun none left later ih =>
    refine region _ _ _ _ _ _ later _ isLayout nonempty begun ?_ ih
    simp only [firstRegion, none, left]

section Run

variable {source : String} {before gap word rest : List Char} {region : Region}

/-- Behind layout a round reads the first region of what follows, at the place behind all the
text in front of it. -/
theorem leadsTo_of_firstRegion (whole : source.toList = before ++ (gap ++ (word ++ rest)))
    (layout : IsLayout gap) (nonempty : word ≠ [])
    (begun : skipLayout (word ++ rest) = word ++ rest)
    (first : firstRegion (({} : Position).after (before ++ gap)) (word ++ rest) = (region, rest))
    (reading : Reading) :
    Progress.LeadsTo source ⟨gap ++ (word ++ rest), reading⟩ ⟨rest, reading.add region⟩ := by
  have found : placeOf? source (word ++ rest) = some (({} : Position).after (before ++ gap)) := by
    rw [Position.after_eq]
    exact placeOf?_append (whole.trans (List.append_assoc _ _ _).symm)
  have left : skipLayout (gap ++ (word ++ rest)) = word ++ rest :=
    (skipLayout_append layout _).trans begun
  simp only [Progress.LeadsTo, Progress.round?, skipPieces?_eq, Option.getD_some, left,
    if_neg (List.append_ne_nil_of_left_ne_nil nonempty rest), found, Option.map_some, first]

/-- **The rounds of a text come to an end**, where only layout is left, and they note all of
its regions. -/
theorem Reads.exists_run {position : Position} {text : List Char} {regions : List Region}
    (told : Reads position text regions) (same : position = ({} : Position).after before)
    (whole : source.toList = before ++ text) (reading : Reading) :
    ∃ last, Relation.ReflTransGen (Progress.LeadsTo source) ⟨text, reading⟩ last ∧
      IsLastLayout last.rest ∧ last.reading = regions.foldl Reading.add reading := by
  induction told using Reads.region_induction generalizing before reading with
  | layout _ _ last => exact ⟨_, .refl, last, rfl⟩
  | region _ gap word rest region _ _ _ layout nonempty begun first ih =>
    subst same
    rw [← Position.after_append] at first
    have step := leadsTo_of_firstRegion whole layout nonempty begun first reading
    obtain ⟨last, run, done⟩ := ih (Position.after_append {} before (gap ++ word)).symm
      (by simpa only [List.append_assoc] using whole) (reading.add region)
    exact ⟨last, .head step run, done⟩

end Run

theorem foldl_add (regions : List Region) (reading : Reading) :
    regions.foldl Reading.add reading =
      { statements := reading.statements ++ regions.flatMap Region.statements
        lines := reading.lines ++ regions.flatMap Region.lines
        errors := reading.errors ++ regions.filterMap Region.error? } := by
  induction regions generalizing reading with
  | nil => simp
  | cons region regions ih =>
    rw [List.foldl_cons, ih, Reading.add]
    simp only [List.flatMap_cons, List.append_assoc, List.filterMap_cons]
    cases region.error? <;> rfl

theorem Progress.round?_eq_none {source : String} {progress : Progress}
    (last : IsLastLayout progress.rest) : progress.round? source = none := by
  simp only [Progress.round?, skipPieces?_eq, skipLayout_eq_nil last, Option.getD_some, if_pos]

/-- A text says nothing exactly if nothing but layout is there. -/
theorem Reads.says_nothing_iff {position : Position} {text : List Char} {regions : List Region}
    (told : Reads position text regions) :
    regions.flatMap Region.statements = [] ∧ regions.filterMap Region.error? = [] ↔
      IsLastLayout text := by
  refine ⟨fun ⟨noStatement, noError⟩ => ?_, fun last => ?_⟩
  · cases told with
    | layout last => exact last
    | sentence _ _ spells _ =>
      exact absurd (List.append_eq_nil_iff.1 noStatement).1 spells.statements_ne_nil
    | fault => cases noError
  · rw [told.eq, regionsFrom_layout position (skipLayout_eq_nil last)]
    exact ⟨rfl, rfl⟩

/-- **All of a text is accounted for.** Layout is skipped piece by piece, each of which takes
something up, without a failure and up to what is no layout. Every round takes something up and
notes statements or one error for what it takes up beside layout; the rounds come to an end with
only layout left, and they have then noted all that the text says. So a text says nothing exactly
if it is layout. -/
theorem read_accounts (source : String) :
    (∀ text,
      (∀ rest, afterPiece? text = some rest → rest.length < text.length) ∧
        skipPieces? text = some (skipLayout text) ∧ afterPiece? (skipLayout text) = none) ∧
      (∀ progress next, Progress.LeadsTo source progress next →
        next.rest.length < progress.rest.length ∧ Round source progress next) ∧
      (∃ last, Relation.ReflTransGen (Progress.LeadsTo source) (.start source) last ∧
        last.round? source = none ∧ IsLastLayout last.rest ∧ last.reading = read source) ∧
      ((read source).statements = [] ∧ (read source).errors = [] ↔
        IsLastLayout source.toList) := by
  refine ⟨fun text => ⟨fun rest => length_afterPiece?, skipPieces?_eq text,
    afterPiece?_skipLayout text⟩, ?_, ?_, ?_⟩
  · exact fun progress next leads => ⟨(round_of_leadsTo leads).length_lt, round_of_leadsTo leads⟩
  · have begins : ({} : Position) = ({} : Position).after [] := rfl
    obtain ⟨last, run, left, told⟩ := (reads {} source.toList).exists_run begins rfl
      (Progress.start source).reading
    refine ⟨last, run, Progress.round?_eq_none left, left, ?_⟩
    rw [told, foldl_add]
    rfl
  · exact (reads {} source.toList).says_nothing_iff

/-- A text with comments, of which the first ends in a carriage return and a line feed, with a
fork, with a faulty stretch and with a letter of two bytes. -/
theorem forked_text_accounted :
    let source := "% \u00e9\r\n a -> #t, #u. b c. % d"
    (∃ next, Progress.LeadsTo source (.start source) next ∧ Round source (.start source) next) ∧
      (∃ last, Relation.ReflTransGen (Progress.LeadsTo source) (.start source) last ∧
        IsLastLayout last.rest ∧ last.reading = read source) ∧
      (read source).statements.length = 2 ∧ (read source).errors.length = 1 ∧
      ¬IsLastLayout source.toList := by
  intro source
  obtain ⟨-, rounds, ⟨last, run, -, left, told⟩, nothing⟩ := read_accounts source
  have begun : ((Progress.start source).round? source).isSome := by decide +kernel
  obtain ⟨next, leads⟩ := Option.isSome_iff_exists.1 begun
  have two : (read source).statements.length = 2 := by decide +kernel
  have one : (read source).errors.length = 1 := by decide +kernel
  refine ⟨⟨next, leads, (rounds _ _ leads).2⟩, ⟨last, run, left, told⟩, two, one, fun layout => ?_⟩
  rw [(nothing.2 layout).1] at two
  cases two

end EventNet.Notation
