import EventNet.Proofs.Notation.Rounds
import EventNet.Proofs.Notation.Compilation
import Mathlib.Data.Prod.Lex

/-!
# Lines and columns

Places are ordered by their lines and, within a line, by their columns. A text leads from a place
to one that is not in front of it, and to one behind it if the text is not empty
(`Position.lt_after`), so the regions of a text start one behind the other (`Reads.ordered`). That
gives the order of the lines of the statements and of the places of the errors.

What starts at these places is a sentence for every statement (`Site`) and a stretch without a
sentence for every error (`Fault`). Neither starts with a space or at the end of a line, and both
start between two characters (`exists_before`), so that lines and columns can be counted in
characters whatever these are (`positions_tell`).
-/

set_option autoImplicit false

namespace EventNet.Notation

/-! ## The order of places -/

namespace Position

/-- A place comes before another if it does so by the line, or in the same line by the column. -/
instance : Preorder Position :=
  Preorder.lift fun position => toLex (position.line, position.column)

theorem lt_iff {first second : Position} :
    first < second ↔
      first.line < second.line ∨ first.line = second.line ∧ first.column < second.column :=
  Prod.Lex.lt_iff

theorem lt_next (position : Position) (c : Char) : position < position.next c := by
  rw [lt_iff, next]
  split
  · exact .inl (Nat.lt_succ_self _)
  · exact .inr ⟨rfl, Nat.lt_succ_self _⟩

theorem le_after (position : Position) (text : List Char) : position ≤ position.after text := by
  induction text generalizing position with
  | nil => exact le_refl position
  | cons c text ih => exact (position.lt_next c).le.trans (ih _)

/-- **What is behind something is behind the place at which this starts.** -/
theorem lt_after (position : Position) {text : List Char} (nonempty : text ≠ []) :
    position < position.after text := by
  obtain ⟨c, text, rfl⟩ := List.exists_cons_of_ne_nil nonempty
  exact (position.lt_next c).trans_le (le_after _ text)

theorem line_le {first second : Position} (before : first < second) :
    first.line ≤ second.line := by
  obtain less | ⟨same, -⟩ := lt_iff.1 before
  · exact less.le
  · exact same.le

end Position

/-- The place at which a region starts. -/
def Region.start : Region → Position
  | accepted start _ => start
  | rejected error => error.position

/-- The first region of a text starts where the text does. -/
theorem start_firstRegion (start : Position) (text : List Char) :
    (firstRegion start text).1.start = start := by
  unfold firstRegion
  split <;> rfl

/-- An error at the start of a text is about all of the text, which starts with no sentence. -/
theorem error?_firstRegion {start : Position} {text : List Char} {error : SyntaxError}
    (found : (firstRegion start text).1.error? = some error) :
    statement text = none ∧ error = rejection start text := by
  unfold firstRegion at found
  split at found
  · cases found
  · rename_i none
    exact ⟨none, (Option.some.inj found).symm⟩

/-- The regions start at a place or behind it, one behind the other. -/
def StartInOrder (position : Position) (regions : List Region) : Prop :=
  (∀ region ∈ regions, position ≤ region.start) ∧
    regions.Pairwise fun first second => first.start < second.start

/-- A region that starts behind layout and takes something up starts in front of those behind
it. -/
theorem StartInOrder.cons {position : Position} {gap word : List Char} {region : Region}
    {regions : List Region} (start : region.start = position.after gap) (nonempty : word ≠ [])
    (ordered : StartInOrder (position.after (gap ++ word)) regions) :
    StartInOrder position (region :: regions) := by
  obtain ⟨behind, ordered⟩ := ordered
  have notBefore : position ≤ region.start := start ▸ position.le_after gap
  have later : region.start < position.after (gap ++ word) := by
    rw [start, Position.after_append]
    exact Position.lt_after _ nonempty
  refine ⟨List.forall_mem_cons.2 ⟨notBefore, fun other listed => ?_⟩,
    List.pairwise_cons.2 ⟨fun other listed => ?_, ordered⟩⟩
  · exact notBefore.trans (later.le.trans (behind other listed))
  · exact later.trans_le (behind other listed)

/-- **The regions of a text start one behind the other.** -/
theorem Reads.startInOrder {position : Position} {text : List Char} {regions : List Region}
    (told : Reads position text regions) : StartInOrder position regions := by
  induction told using Reads.region_induction with
  | layout => exact ⟨by simp, .nil⟩
  | region position gap word rest _ _ _ _ _ nonempty _ first ih =>
    have start := start_firstRegion (position.after gap) (word ++ rest)
    rw [first] at start
    exact ih.cons start nonempty

theorem Region.mem_lines {region : Region} {line : Nat} (listed : line ∈ region.lines) :
    line = region.start.line := by
  cases region with
  | accepted start statements =>
    obtain ⟨statement, -, same⟩ := List.mem_map.1 listed
    exact same.symm
  | rejected => cases listed

theorem Region.position_of_error? {region : Region} {error : SyntaxError}
    (found : region.error? = some error) : error.position = region.start := by
  cases region with
  | accepted => cases found
  | rejected other => rw [← Option.some.inj found]; rfl

/-! ## What starts there -/

/-- A stretch of a text where reading goes on and finds no sentence: its first character and all
that follows, and the text in front of it. -/
structure Fault (source : String) where
  before : List Char
  first : Char
  behind : List Char
  /-- The regions in front of the stretch. -/
  earlier : List Region
  text_eq : source.toList = before ++ first :: behind
  regions_eq : regions source =
    earlier ++ regionsFrom (({} : Position).after before) (first :: behind)
  noSpace : isSpace first = false
  noStatement : statement (first :: behind) = none

/-- The error about a faulty stretch, at the place of its first character. -/
def Fault.error {source : String} (fault : Fault source) : SyntaxError :=
  rejection (placeBehind fault.before) (fault.first :: fault.behind)

/-- Behind layout there is no space. -/
theorem exists_cons_of_begun {text : List Char} (nonempty : text ≠ [])
    (begun : skipLayout text = text) : ∃ c rest, text = c :: rest ∧ isSpace c = false := by
  obtain ⟨c, rest, rfl⟩ := List.exists_cons_of_ne_nil nonempty
  refine ⟨c, rest, rfl, Bool.eq_false_iff.2 fun space => ?_⟩
  have notLonger := length_skipLayout rest
  rw [← skipLayout_space space, begun] at notLonger
  exact absurd notLonger (Nat.not_succ_le_self _)

/-- **Every error is about a faulty stretch.** -/
theorem Reads.faults {source : String} {before text : List Char} {position : Position}
    {earlier later : List Region} (told : Reads position text later)
    (same : position = ({} : Position).after before) (whole : source.toList = before ++ text)
    (split : regions source = earlier ++ later) :
    ∀ error ∈ later.filterMap Region.error?,
      error ∈ Set.range (Fault.error : Fault source → SyntaxError) := by
  induction told using Reads.region_induction generalizing before earlier with
  | layout => simp
  | region _ gap word rest region _ _ told layout nonempty begun first ih =>
    subst same
    intro error listed
    obtain ⟨other, isIn, found⟩ := List.mem_filterMap.1 listed
    obtain rfl | isLater := List.mem_cons.1 isIn
    · obtain ⟨none, rfl⟩ := error?_firstRegion ((congrArg (·.1.error?) first).trans found)
      obtain ⟨c, behind, spelled, noSpace⟩ :=
        exists_cons_of_begun (List.append_ne_nil_of_left_ne_nil nonempty rest) begun
      rw [told.eq, regionsFrom_gap layout, ← Position.after_append, spelled] at split
      rw [spelled] at none whole ⊢
      refine ⟨⟨before ++ gap, c, behind, earlier, by rw [whole, List.append_assoc], split, noSpace,
        none⟩, ?_⟩
      rw [Fault.error, ← Position.after_eq, Position.after_append]
    · exact ih (Position.after_append {} before (gap ++ word)).symm
        (by simpa only [List.append_assoc] using whole) (List.append_cons .. ▸ split) error
        (List.mem_filterMap.2 ⟨other, isLater, found⟩)

theorem read_faults (source : String) :
    ∃ faults : List (Fault source), (read source).errors = faults.map Fault.error := by
  have begins : ({} : Position) = ({} : Position).after [] := rfl
  have all : regions source = [] ++ regions source := rfl
  obtain ⟨faults, same⟩ :
      (read source).errors ∈ Set.range (List.map (Fault.error : Fault source → SyntaxError)) := by
    rw [Set.range_list_map]
    exact (reads {} source.toList).faults begins rfl all
  exact ⟨faults, same.symm⟩

/-- The statement is the one of its sentence at which it has been found. -/
theorem Site.statements_eq {source : String} {index : Nat} (site : Site source index) :
    (read source).statements[index]? = site.sentence.statements[site.offset]? := by
  have index_eq := site.index_eq
  have offset : index - (site.earlier.flatMap Region.statements).length = site.offset := by omega
  simp only [read, site.regions_eq, List.flatMap_append, List.flatMap_cons]
  rw [List.getElem?_append_right (by omega), offset]
  exact List.getElem?_append_left site.inside

/-! ## While a text is read -/

/-- What is left to read is always an end of the text. -/
theorem exists_before {source : String} {progress : Progress}
    (reached : Relation.ReflTransGen (Progress.LeadsTo source) (.start source) progress) :
    ∃ before, source.toList = before ++ skipLayout progress.rest := by
  have left : ∃ before, source.toList = before ++ progress.rest := by
    induction reached with
    | refl => exact ⟨[], rfl⟩
    | tail _ leads ih =>
      obtain ⟨before, whole⟩ := ih
      cases round_of_leadsTo leads with
      | @statements gap word _ _ _ split | @error gap word _ _ split =>
        exact ⟨before ++ (gap ++ word), by rw [whole, split, List.append_assoc, List.append_assoc]⟩
  obtain ⟨before, whole⟩ := left
  obtain ⟨gap, -, split⟩ | ⟨nothing, -⟩ := skipLayout_cases progress.rest
  · exact ⟨before ++ gap, by rw [whole, List.append_assoc, ← split]⟩
  · exact ⟨source.toList, by rw [nothing, List.append_nil]⟩

/-- **Places are right and in order.** Every statement has the line in which the first word of its
sentence stands, and these lines go up. Every error is at the line and the column of the first
character of a faulty stretch, which is no space and no end of a line, and these places go up by
line and column. Wherever reading goes on, the text can be cut between two characters, and the
place that is found there is the place behind all the text in front of it. -/
theorem positions_tell (source : String) :
    ((read source).lines.length = (read source).statements.length ∧
      (∀ index statement, (read source).statements[index]? = some statement →
        ∃ site : Site source index, site.sentence.statements[site.offset]? = some statement ∧
          (read source).lines[index]? = some site.line) ∧
      (read source).lines.Pairwise (· ≤ ·)) ∧
    ((∃ faults : List (Fault source), (read source).errors = faults.map Fault.error) ∧
      ((read source).errors.map SyntaxError.position).Pairwise (· < ·)) ∧
    ∀ progress, Relation.ReflTransGen (Progress.LeadsTo source) (.start source) progress →
      ∃ before, source.toList = before ++ skipLayout progress.rest ∧
        (⟨offsetOf source (skipLayout progress.rest)⟩ : String.Pos.Raw).IsValid source ∧
          placeOf? source (skipLayout progress.rest) = some (placeBehind before) := by
  have ordered : (regions source).Pairwise fun first second => first.start < second.start :=
    (reads {} source.toList).startInOrder.2
  refine ⟨⟨?_, ?_, ?_⟩, ⟨read_faults source, ?_⟩, ?_⟩
  · simp only [read, List.length_flatMap, Region.length_lines]
  · intro index statement found
    obtain ⟨site⟩ := exists_site found
    exact ⟨site, site.statements_eq ▸ found, site.lines_eq⟩
  · refine List.pairwise_flatMap.2 ⟨fun region _ => ?_, ordered.imp fun before => ?_⟩
    · exact List.pairwise_of_forall_mem_list fun line listed other alsoListed =>
        (Region.mem_lines listed).trans_le (Region.mem_lines alsoListed).ge
    · intro line listed other alsoListed
      rw [Region.mem_lines listed, Region.mem_lines alsoListed]
      exact Position.line_le before
  · rw [List.pairwise_map]
    refine List.pairwise_filterMap.2 (ordered.imp fun before error found other alsoFound => ?_)
    rw [Region.position_of_error? found, Region.position_of_error? alsoFound]
    exact before
  · intro progress reached
    obtain ⟨before, whole⟩ := exists_before reached
    exact ⟨before, whole, isValid_offsetOf whole, placeOf?_append whole⟩

/-- A text with letters of two and three bytes, both kinds of line ends, a fork over three lines
and four faulty stretches, two of them in one line. The second clause of the fork has the line of
the first. -/
theorem mixed_text_positions :
    let source := "\u00e9 b.\r\n\u4f4d -> #a,\r\n  % \u00fc\n #b. \u6f22 \u5b57 c. d e.f.\n!"
    (read source).lines = [2, 2, 4] ∧
      (read source).errors.map SyntaxError.position =
        [{ line := 1, column := 1 }, { line := 4, column := 6 }, { line := 4, column := 13 },
          { line := 5, column := 1 }] ∧
      (∃ site : Site source 1, site.before.count '\n' = 1) ∧
      ∃ faults : List (Fault source), faults.map (fun fault => placeBehind fault.before) =
        (read source).errors.map SyntaxError.position := by
  intro source
  obtain ⟨⟨-, sites, -⟩, ⟨⟨faults, errors⟩, -⟩, -⟩ := positions_tell source
  have lines : (read source).lines = [2, 2, 4] := by decide +kernel
  refine ⟨lines, by decide +kernel, ?_, faults, by rw [errors, List.map_map]; rfl⟩
  have more : (read source).statements[1]?.isSome := by decide +kernel
  obtain ⟨statement, second⟩ := Option.isSome_iff_exists.1 more
  obtain ⟨site, -, line⟩ := sites 1 statement second
  rw [lines] at line
  exact ⟨site, (Nat.succ.inj (Option.some.inj line)).symm⟩

end EventNet.Notation
