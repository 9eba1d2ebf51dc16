import EventNet.Notation.Source
import EventNet.Proofs.Notation.Grammar

/-!
# The notation reader accepts its grammar

A source text is read without errors exactly if it is a text of the grammar, and then the
statements are those that its sentences stand for (`read_accepts_programs`). The sentences
of a text are unique, so it does not matter how the text is taken apart.

A text is read region by region. A program that starts with a sentence is read as a region
with the statements of that sentence, and a region without an error is a sentence; both
are carried through a whole text by induction, once over the sentences and once over the
regions.
-/

set_option autoImplicit false

namespace EventNet.Notation

/-! ## Regions -/

/-- Nothing but layout is no region. -/
theorem regionsFrom_layout (position : Position) {text : List Char}
    (nothing : skipLayout text = []) : regionsFrom position text = [] := by
  rw [regionsFrom, dif_pos nothing]

/-- A statement is more than layout. -/
theorem skipLayout_ne_nil {text rest : List Char} {statements : List Statement}
    (read : statement text = some (statements, rest)) : skipLayout text ≠ [] := by
  intro empty
  have again := (ignoresLayout_statement _ _ (skipLayout_skipLayout text)).trans read
  have shorter := statement_shortens _ _ _ again
  rw [empty] at shorter
  exact Nat.not_lt_zero _ shorter

/-- A text that starts with a statement has it as its first region. -/
theorem regionsFrom_statement (position : Position) {text rest : List Char}
    {statements : List Statement} (read : statement text = some (statements, rest)) :
    ∃ start next, regionsFrom position text =
      .accepted start statements :: regionsFrom next rest := by
  have again : statement (skipLayout text) = some (statements, rest) :=
    (ignoresLayout_statement _ _ (skipLayout_skipLayout text)).trans read
  rw [regionsFrom, dif_neg (skipLayout_ne_nil read)]
  simp only [firstRegion, again]
  exact ⟨_, _, rfl⟩

/-- A text that starts with no statement has an error as its first region. -/
theorem regionsFrom_rejected (position : Position) {text : List Char}
    (more : skipLayout text ≠ []) (none : statement text = none) :
    ∃ error rest, regionsFrom position text = .rejected error :: rest := by
  have again : statement (skipLayout text) = Option.none :=
    (ignoresLayout_statement _ _ (skipLayout_skipLayout text)).trans none
  rw [regionsFrom, dif_neg more]
  simp only [firstRegion, again]
  exact ⟨_, _, rfl⟩

/-! ## Programs -/

/-- A program is read without errors, as the statements of its sentences. -/
theorem IsProgram.regionsFrom {sentences : List Sentence} {text : List Char}
    (isProgram : IsProgram sentences text) (position : Position) :
    (Notation.regionsFrom position text).filterMap Region.error? = [] ∧
      (Notation.regionsFrom position text).flatMap Region.statements =
        sentences.flatMap Sentence.statements := by
  induction isProgram generalizing position with
  | done last =>
    rw [regionsFrom_layout position (skipLayout_eq_nil last)]
    exact ⟨rfl, rfl⟩
  | sentence spells _ ih =>
    obtain ⟨start, next, regions⟩ := regionsFrom_statement position (statement_of_spells spells _)
    obtain ⟨noErrors, statements⟩ := ih next
    rw [regions]
    exact ⟨noErrors, congrArg (_ ++ ·) statements⟩

/-- What is read without errors is a program. -/
theorem exists_program {text : List Char} (position : Position)
    (noErrors : (regionsFrom position text).filterMap Region.error? = []) :
    ∃ sentences, IsProgram sentences text := by
  by_cases nothing : skipLayout text = []
  · exact ⟨[], .done (skipLayout_eq_nil_iff.1 nothing)⟩
  · cases read : statement text with
    | none =>
      obtain ⟨error, rest, regions⟩ := regionsFrom_rejected position nothing read
      rw [regions] at noErrors
      cases noErrors
    | some result =>
      obtain ⟨statements, rest⟩ := result
      obtain ⟨start, next, regions⟩ := regionsFrom_statement position read
      rw [regions] at noErrors
      have shorter : rest.length < text.length := statement_shortens _ _ _ read
      obtain ⟨sentence, spelled, rfl, spells, -⟩ := spells_of_statement read
      obtain ⟨sentences, isProgram⟩ := exists_program next noErrors
      exact ⟨sentence :: sentences, .sentence spells isProgram⟩
  termination_by text.length

/-- A text is a program in one way at most. -/
theorem IsProgram.unique {first second : List Sentence} {text : List Char}
    (isFirst : IsProgram first text) (isSecond : IsProgram second text) : first = second := by
  induction isFirst generalizing second with
  | done last =>
    cases isSecond with
    | done _ => rfl
    | sentence spells _ =>
      exact absurd (skipLayout_eq_nil last) (skipLayout_ne_nil (statement_of_spells spells _))
  | @sentence sentence sentences spelled rest spells _ ih =>
    generalize same : spelled ++ rest = text at isSecond
    cases isSecond with
    | done last =>
      subst same
      exact absurd (skipLayout_eq_nil last) (skipLayout_ne_nil (statement_of_spells spells _))
    | sentence spellsOther isOther =>
      obtain ⟨rfl, rfl⟩ := spells.unique spellsOther same
      rw [ih isOther]

/-- **The reader accepts exactly the texts of the grammar**, and it gives the statements
that their sentences stand for. -/
theorem read_accepts_programs (source : String) :
    ((read source).errors = [] ↔ ∃ sentences, IsProgram sentences source.toList) ∧
      ∀ sentences, IsProgram sentences source.toList →
        (read source).statements = sentences.flatMap Sentence.statements ∧
          ∀ others, IsProgram others source.toList → others = sentences := by
  refine ⟨⟨exists_program {}, ?_⟩, ?_⟩
  · rintro ⟨sentences, isProgram⟩
    exact (isProgram.regionsFrom {}).1
  · intro sentences isProgram
    exact ⟨(isProgram.regionsFrom {}).2, fun others isOther => isOther.unique isProgram⟩

/-- A text with every form of clause, in which a comment hides what looks like a sentence. -/
theorem read_accepts_forms :
    let source := "a:c -> d -o #t. % x. \r\n d -o #t,#u -> e, f.-> #t.\t#t. b , c.%%"
    (read source).errors = [] ∧
      (read source).statements =
        [.clause "t" [(.consume, "a"), (.catalyst, "c"), (.inhibit, "d")],
          .clause "t" [(.inhibit, "d"), (.produce, "e"), (.produce, "f")],
          .clause "u" [(.inhibit, "d"), (.produce, "e"), (.produce, "f")],
          .clause "t" [], .clause "t" [], .factual ["b", "c"]] ∧
      ∃ sentences, IsProgram sentences source.toList ∧
        (read source).statements = sentences.flatMap Sentence.statements := by
  intro source
  have noErrors : (read source).errors = [] := by decide +kernel
  obtain ⟨sentences, isProgram⟩ := (read_accepts_programs source).1.1 noErrors
  exact ⟨noErrors, by decide +kernel, sentences, isProgram,
    ((read_accepts_programs source).2 sentences isProgram).1⟩

end EventNet.Notation
