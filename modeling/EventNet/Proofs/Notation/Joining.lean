import EventNet.Proofs.Notation.Regions

/-!
# Texts one behind the other

A text that is read without errors and ends at the end of a line can stand in front of any
other text: both are read as they are read alone, the second further down (`read_append`).

That is so because what is read without errors consists of sentences and layout
(`Reads.regionsFrom_append`). Sentences are read whatever follows, and so is layout, except for a
comment in the last line: without the end of its line it would go on into the other text.
-/

set_option autoImplicit false

namespace EventNet.Notation

/-! ## Ends of lines -/

/-- A comment at the end of a text has no end of a line behind it. -/
theorem IsLastLayout.isLayout {text : List Char} (last : IsLastLayout text)
    (ended : Ended text) : IsLayout text := by
  cases last with
  | layout layout => exact layout
  | @comment gap body layout inLine =>
    obtain ⟨c, comes⟩ : ∃ c, ('%' :: body).getLast? = some c :=
      Option.isSome_iff_exists.1 (by simp)
    have feed : c = '\n' := ended.of_append c comes
    rcases List.mem_cons.1 (List.mem_of_getLast? comes) with percent | inBody
    · exact absurd (percent.symm.trans feed) (by decide)
    · exact absurd feed (inLine c inBody).2

/-- Behind the last line of a text there is the start of a line. -/
theorem Ended.after_eq {text : List Char} (ended : Ended text) :
    ({} : Position).after text = ({} : Position).below (text.count '\n') := by
  rcases List.eq_nil_or_concat text with rfl | ⟨line, c, rfl⟩
  · rfl
  · rw [ended c (by simp), List.concat_eq_append]
    exact Position.after_line line

/-! ## Regions of a text with another behind it -/

/-- **What is read without errors is read in the same way in front of any text.** -/
theorem Reads.regionsFrom_append {position : Position} {first : List Char}
    {regions : List Region} (told : Reads position first regions) (ended : Ended first)
    (noErrors : regions.filterMap Region.error? = []) (second : List Char) :
    regionsFrom position (first ++ second) =
      regions ++ regionsFrom (position.after first) second := by
  induction told with
  | layout last => exact regionsFrom_gap (last.isLayout ended) _ second
  | @sentence position gap word rest sentence regions layout begins spells _ ih =>
    have behind := ih ended.of_append.of_append noErrors
    rw [← Position.after_append, List.append_assoc] at behind
    have read := statement_of_spells spells (rest ++ second)
    rw [List.append_assoc, List.append_assoc, regionsFrom_of_statement layout begins read, behind,
      List.cons_append]
  | fault => cases noErrors

/-- **A text without errors can stand in front of any other text**, if it is empty or ends at
the end of a line: all that the two texts say alone is said by both together, the second
further down by the lines of the first. -/
theorem read_append {first second : String} (noErrors : (read first).errors = [])
    (ended : first = "" ∨ ∃ lines, first = lines ++ "\n") :
    (read (first ++ second)).statements =
        (read first).statements ++ (read second).statements ∧
      (read (first ++ second)).lines =
        (read first).lines ++ (read second).lines.map (· + first.toList.count '\n') ∧
      (read (first ++ second)).errors =
        (read second).errors.map fun error =>
          { error with position :=
            { error.position with line := error.position.line + first.toList.count '\n' } } := by
  have atEnd : Ended first.toList := by
    rcases ended with rfl | ⟨lines, rfl⟩
    · simp [Ended]
    · simp [Ended]
  have joined : regions (first ++ second) =
      regions first ++ (regions second).map (Region.below (first.toList.count '\n')) := by
    rw [regions, String.toList_append, (reads {} _).regionsFrom_append atEnd noErrors,
      atEnd.after_eq, regionsFrom_below]
    rfl
  have joins := joins_of_regions joined
  refine ⟨joins.statements_eq, joins.lines_eq, joins.errors_eq.trans ?_⟩
  rw [noErrors]
  rfl

/-- A text with comments, whose last line has one too, in front of a text with an error. -/
theorem read_append_faulty :
    let first := "% a. % b.\r\na -> #t, #u\n -> b. % c d.\n"
    let second := " c d. % e\n\nb."
    (read first).errors = [] ∧ (first = "" ∨ ∃ lines, first = lines ++ "\n") ∧
      (read (first ++ second)).lines = [2, 2, 6] ∧
      ((read (first ++ second)).errors.map SyntaxError.text =
        ["4:2: unrecognised statement \x60c d\x60"]) ∧
      (read (first ++ second)).statements =
        (read first).statements ++ (read second).statements ∧
      (read (first ++ second)).lines =
        (read first).lines ++ (read second).lines.map (· + first.toList.count '\n') ∧
      (read (first ++ second)).errors =
        (read second).errors.map fun error =>
          { error with position :=
            { error.position with line := error.position.line + first.toList.count '\n' } } := by
  intro first second
  have noErrors : (read first).errors = [] := by decide +kernel
  have ended : first = "" ∨ ∃ lines, first = lines ++ "\n" :=
    .inr ⟨"% a. % b.\r\na -> #t, #u\n -> b. % c d.", by decide +kernel⟩
  exact ⟨noErrors, ended, by decide +kernel, by decide +kernel, read_append noErrors ended⟩

end EventNet.Notation
