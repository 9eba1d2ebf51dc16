import EventNet.Proofs.Notation.Source
import EventNet.Proofs.Notation.Wording

/-!
# Regions and where they start

The place of a region is the place behind all the text in front of it, so it is enough to know
how places move along a text (`Position.after_append`, `Position.line_after`). A text further
down has the same regions further down (`regionsFrom_below`).

A sentence behind layout is the first region of a text whatever follows it
(`regionsFrom_of_statement`), and so is a faulty stretch with what is left to read behind it
(`regionsFrom_of_none`). Every text is read as such regions one after another, up to its last
layout (`reads`), so a fact about the regions of a text is an induction over `Reads`.
-/

set_option autoImplicit false

namespace EventNet.Notation

/-! ## Places -/

namespace Position

theorem after_append (position : Position) (first second : List Char) :
    position.after (first ++ second) = (position.after first).after second :=
  List.foldl_append

/-- The place at which the second of two texts starts is the place behind the first. -/
theorem upTo_append (position : Position) (first second : List Char) :
    position.upTo (first ++ second) second = position.after first := by
  rw [upTo, List.length_append, Nat.add_sub_cancel, List.take_left]

/-- Lines are counted by their ends. -/
theorem line_after (position : Position) (text : List Char) :
    (position.after text).line = position.line + text.count '\n' := by
  induction text generalizing position with
  | nil => rfl
  | cons c text ih =>
    have step : (position.after (c :: text)) = (position.next c).after text := rfl
    rw [step, ih, List.count_cons, next]
    by_cases feed : c = '\n'
    · rw [if_pos feed, if_pos (beq_iff_eq.2 feed)]
      show position.line + 1 + text.count '\n' = _
      omega
    · rw [if_neg feed, if_neg (by simpa using feed)]
      rfl

/-- The same place a number of lines further down. -/
def below (position : Position) (lines : Nat) : Position :=
  { position with line := position.line + lines }

theorem next_below (position : Position) (lines : Nat) (c : Char) :
    (position.below lines).next c = (position.next c).below lines := by
  by_cases feed : c = '\n'
  · simp only [next, if_pos feed, below, Nat.add_right_comm]
  · simp only [next, if_neg feed, below]

theorem after_below (position : Position) (lines : Nat) (text : List Char) :
    (position.below lines).after text = (position.after text).below lines := by
  induction text generalizing position with
  | nil => rfl
  | cons c text ih =>
    show ((position.below lines).next c).after text = ((position.next c).after text).below lines
    rw [next_below, ih]

/-- Behind the end of a line the next line starts. -/
theorem after_line (text : List Char) :
    ({} : Position).after (text ++ ['\n']) =
      ({} : Position).below ((text ++ ['\n']).count '\n') := by
  have ended : ({} : Position).after (text ++ ['\n']) =
      { line := (({} : Position).after text).line + 1, column := 1 } := by
    rw [after_append]
    rfl
  rw [ended, line_after, List.count_append, below]
  rfl

end Position

/-! ## Regions further down -/

/-- The same error a number of lines further down. -/
def SyntaxError.below (error : SyntaxError) (lines : Nat) : SyntaxError :=
  { error with position := error.position.below lines }

/-- The same region a number of lines further down. -/
def Region.below (lines : Nat) : Region → Region
  | accepted start statements => accepted (start.below lines) statements
  | rejected error => rejected (error.below lines)

theorem firstRegion_below (start : Position) (lines : Nat) (text : List Char) :
    firstRegion (start.below lines) text =
      ((firstRegion start text).1.below lines, (firstRegion start text).2) := by
  unfold firstRegion
  split <;> rfl

/-- **A text further down has the same regions further down.** -/
theorem regionsFrom_below (position : Position) (lines : Nat) (text : List Char) :
    regionsFrom (position.below lines) text =
      (regionsFrom position text).map (Region.below lines) := by
  rw [regionsFrom, regionsFrom]
  by_cases nothing : skipLayout text = []
  · rw [dif_pos nothing, dif_pos nothing, List.map_nil]
  · have shorter : (firstRegion (position.upTo text (skipLayout text)) (skipLayout text)).2.length <
        text.length :=
      Nat.lt_of_lt_of_le (length_firstRegion _ nothing) (length_skipLayout text)
    simp only [dif_neg nothing, Position.upTo, Position.after_below, firstRegion_below,
      List.map_cons]
    rw [regionsFrom_below]
  termination_by text.length

theorem Region.statements_below (region : Region) (lines : Nat) :
    (region.below lines).statements = region.statements := by
  cases region <;> rfl

theorem Region.lines_below (region : Region) (lines : Nat) :
    (region.below lines).lines = region.lines.map (· + lines) := by
  cases region with
  | accepted start statements => simp [below, Region.lines, Position.below]
  | rejected error => rfl

theorem Region.error?_below (region : Region) (lines : Nat) :
    (region.below lines).error? = region.error?.map fun error => error.below lines := by
  cases region <;> rfl

/-- A text with the regions of two others, of which the second stands a number of lines
further down, says what both of them say. -/
structure Reading.Joins (whole first second : Reading) (lines : Nat) : Prop where
  statements_eq : whole.statements = first.statements ++ second.statements
  lines_eq : whole.lines = first.lines ++ second.lines.map (· + lines)
  errors_eq : whole.errors = first.errors ++ second.errors.map fun error => error.below lines

theorem joins_of_regions {whole first second : String} {lines : Nat}
    (joined : regions whole = regions first ++ (regions second).map (Region.below lines)) :
    (read whole).Joins (read first) (read second) lines := by
  refine ⟨?_, ?_, ?_⟩
  · simp only [read, joined, List.flatMap_append, List.flatMap_map, Region.statements_below]
  · simp only [read, joined, List.flatMap_append, List.flatMap_map, Region.lines_below,
      List.map_flatMap]
  · simp only [read, joined, List.filterMap_append, List.filterMap_map, Function.comp_def,
      Region.error?_below, List.map_filterMap]

/-! ## The first region of a text -/

section FirstRegion

variable {gap : List Char}

/-- Behind layout a text has the regions that it has by itself. -/
theorem regionsFrom_gap (layout : IsLayout gap) (position : Position) (text : List Char) :
    regionsFrom position (gap ++ text) = regionsFrom (position.after gap) text := by
  by_cases nothing : skipLayout text = []
  · rw [regionsFrom_layout _ nothing,
      regionsFrom_layout _ ((skipLayout_append layout text).trans nothing)]
  · obtain ⟨more, -, whole⟩ := exists_gap text nothing
    have start : position.upTo (gap ++ text) (skipLayout text) =
        (position.after gap).upTo text (skipLayout text) := by
      generalize skipLayout text = begun at whole
      rw [whole, ← List.append_assoc, Position.upTo_append, Position.upTo_append,
        Position.after_append]
    rw [regionsFrom, regionsFrom]
    simp only [skipLayout_append layout, dif_neg nothing, start]

/-- A text that starts without layout starts with its first region. -/
theorem regionsFrom_begun (position : Position) {text : List Char} (nonempty : text ≠ [])
    (begun : skipLayout text = text) :
    regionsFrom position text =
      (firstRegion position text).1 ::
        regionsFrom (position.upTo text (firstRegion position text).2)
          (firstRegion position text).2 := by
  have start : position.upTo text text = position := by
    rw [Position.upTo, Nat.sub_self, List.take_zero]
    rfl
  rw [regionsFrom]
  simp only [begun, dif_neg nonempty, start]

/-- **A sentence behind layout is the first region**, whatever follows it. -/
theorem regionsFrom_of_statement (layout : IsLayout gap) {word rest : List Char}
    (begins : Begins word) {statements : List Statement}
    (read : statement (word ++ rest) = some (statements, rest)) (position : Position) :
    regionsFrom position (gap ++ (word ++ rest)) =
      .accepted (position.after gap) statements ::
        regionsFrom (position.after (gap ++ word)) rest := by
  have first : firstRegion (position.after gap) (word ++ rest) =
      (.accepted (position.after gap) statements, rest) := by
    simp only [firstRegion, read]
  have whole := begins.append rest
  rw [regionsFrom_gap layout, regionsFrom_begun _ whole.ne_nil whole.skipLayout_eq, first,
    Position.upTo_append, Position.after_append]

/-- Recovering drops something and leaves an end of the text. -/
theorem exists_passed {text : List Char} (nonempty : text ≠ []) :
    ∃ passed, text = passed ++ recover text ∧ passed ≠ [] := by
  fun_induction recover text with
  | case1 => exact absurd rfl nonempty
  | case2 rest => exact ⟨['.'], rfl, List.cons_ne_nil _ _⟩
  | case3 rest =>
    cases found : afterComment? rest with
    | none => exact ⟨'%' :: rest, (List.append_nil _).symm, List.cons_ne_nil _ _⟩
    | some after =>
      obtain ⟨body, -, rfl, -⟩ := afterComment?_cases found
      exact ⟨'%' :: body, rfl, List.cons_ne_nil _ _⟩
  | case4 c rest _ _ ih =>
    by_cases empty : rest = []
    · subst empty
      exact ⟨[c], rfl, List.cons_ne_nil _ _⟩
    · obtain ⟨passed, whole, -⟩ := ih empty
      exact ⟨c :: passed, congrArg (c :: ·) whole, List.cons_ne_nil _ _⟩

/-- **A faulty stretch behind layout is the first region**, and reading goes on where it
recovers. -/
theorem regionsFrom_of_none (layout : IsLayout gap) (passed rest : List Char)
    (nonempty : passed ≠ []) (begun : skipLayout (passed ++ rest) = passed ++ rest)
    (none : statement (passed ++ rest) = none) (left : recover (passed ++ rest) = rest)
    (position : Position) :
    regionsFrom position (gap ++ (passed ++ rest)) =
      .rejected (rejection (position.after gap) (passed ++ rest)) ::
        regionsFrom (position.after (gap ++ passed)) rest := by
  have first : firstRegion (position.after gap) (passed ++ rest) =
      (.rejected (rejection (position.after gap) (passed ++ rest)), rest) := by
    simp only [firstRegion, none, left]
  rw [regionsFrom_gap layout, regionsFrom_begun _ (List.append_ne_nil_of_left_ne_nil nonempty rest)
    begun, first, Position.upTo_append, Position.after_append]

end FirstRegion

/-- How a text is read, region by region. -/
inductive Reads : Position → List Char → List Region → Prop where
  /-- There is nothing but layout. -/
  | layout {position : Position} {text : List Char} : IsLastLayout text → Reads position text []
  /-- There is a sentence behind layout. -/
  | sentence {position : Position} {gap word rest : List Char} {sentence : Sentence}
      {regions : List Region} : IsLayout gap → Begins word → sentence.Spells word →
        Reads (position.after (gap ++ word)) rest regions →
          Reads position (gap ++ (word ++ rest))
            (.accepted (position.after gap) sentence.statements :: regions)
  /-- There is a faulty stretch behind layout. -/
  | fault {position : Position} {gap passed rest : List Char} {regions : List Region} :
      IsLayout gap → passed ≠ [] → skipLayout (passed ++ rest) = passed ++ rest →
        statement (passed ++ rest) = none → recover (passed ++ rest) = rest →
          Reads (position.after (gap ++ passed)) rest regions →
            Reads position (gap ++ (passed ++ rest))
              (.rejected (rejection (position.after gap) (passed ++ rest)) :: regions)

/-- **Every text is read in such a way.** -/
theorem reads (position : Position) (text : List Char) :
    Reads position text (regionsFrom position text) := by
  by_cases nothing : skipLayout text = []
  · rw [regionsFrom_layout position nothing]
    exact .layout (skipLayout_eq_nil_iff.1 nothing)
  · obtain ⟨gap, layout, whole⟩ := exists_gap text nothing
    have begun := skipLayout_skipLayout text
    generalize skipLayout text = body at *
    have notLonger : body.length ≤ text.length := by simp [whole]
    cases read : statement body with
    | none =>
      obtain ⟨passed, left, more⟩ := exists_passed nothing
      generalize same : recover body = rest at left
      have shorter : rest.length < text.length := by
        have := List.length_pos_iff.2 more
        rw [left, List.length_append] at notLonger
        omega
      rw [left] at begun read same whole
      rw [whole, regionsFrom_of_none layout passed rest more begun read same]
      exact .fault layout more begun read same (reads _ rest)
    | some result =>
      obtain ⟨statements, rest⟩ := result
      have shorter : rest.length < text.length :=
        Nat.lt_of_lt_of_le (statement_shortens _ _ _ read) notLonger
      obtain ⟨sentence, word, left, spells, rfl⟩ := spells_of_statement read
      rw [left] at begun read whole
      have begins : Begins word := spells.begins begun
      rw [whole, regionsFrom_of_statement layout begins read]
      exact .sentence layout begins spells (reads _ rest)
  termination_by text.length

/-- A text is read in one way. -/
theorem Reads.eq {position : Position} {text : List Char} {regions : List Region}
    (told : Reads position text regions) : regions = regionsFrom position text := by
  induction told with
  | layout last => rw [regionsFrom_layout _ (skipLayout_eq_nil last)]
  | sentence layout begins spells _ ih =>
    rw [regionsFrom_of_statement layout begins (statement_of_spells spells _), ih]
  | fault layout nonempty begun none left _ ih =>
    rw [regionsFrom_of_none layout _ _ nonempty begun none left, ih]

end EventNet.Notation
