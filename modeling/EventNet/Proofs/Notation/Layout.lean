import EventNet.Proofs.Notation.Syntax
import Mathlib.Data.List.Basic

/-!
# Reading layout and words

Readers skip layout in front of what they read. What they skip is layout
(`skipLayout_cases`), and they skip all of it (`skipLayout_append`).

A text is said to have a mark ahead if the mark comes next behind layout. That is all that
readers need to know about what follows: a mark ahead ends a label, is no label itself, and
is none of the other marks.
-/

set_option autoImplicit false

namespace EventNet.Notation

/-! ## Comments -/

theorem afterComment?_cons {c : Char} {text : List Char} (notReturn : c ≠ '\r')
    (notFeed : c ≠ '\n') : afterComment? (c :: text) = afterComment? text := by
  rw [afterComment?]
  · exact notFeed
  · exact fun _ same _ => notReturn same
  · exact notReturn

theorem afterComment?_eq_nil {body : List Char} (inLine : IsCommentText body) :
    afterComment? body = some [] := by
  induction body with
  | nil => rfl
  | cons c body ih =>
    obtain ⟨⟨notReturn, notFeed⟩, others⟩ := List.forall_mem_cons.1 inLine
    rw [afterComment?_cons notReturn notFeed, ih others]

theorem afterComment?_eq_lineEnd {body lineEnd rest : List Char} (inLine : IsCommentText body)
    (ends : IsLineEnd lineEnd) :
    afterComment? (body ++ (lineEnd ++ rest)) = some (lineEnd ++ rest) := by
  induction body with
  | nil => cases ends <;> rfl
  | cons c body ih =>
    obtain ⟨⟨notReturn, notFeed⟩, others⟩ := List.forall_mem_cons.1 inLine
    rw [List.cons_append, afterComment?_cons notReturn notFeed, ih others]

/-- What is taken for a comment is one: it goes up to the end of the text or of a line. -/
theorem afterComment?_cases {text after : List Char} (found : afterComment? text = some after) :
    ∃ body, IsCommentText body ∧ text = body ++ after ∧
      (after = [] ∨ ∃ lineEnd rest, IsLineEnd lineEnd ∧ after = lineEnd ++ rest) := by
  fun_induction afterComment? text with
  | case1 => exact ⟨[], by simp [IsCommentText], by simp_all, by simp_all⟩
  | case2 rest =>
    cases found
    exact ⟨[], by simp [IsCommentText], rfl, .inr ⟨['\n'], rest, .feed, rfl⟩⟩
  | case3 rest =>
    cases found
    exact ⟨[], by simp [IsCommentText], rfl, .inr ⟨['\r', '\n'], rest, .returnFeed, rfl⟩⟩
  | case4 => cases found
  | case5 c rest notFeed _ notReturn ih =>
    obtain ⟨body, inLine, rfl, ends⟩ := ih found
    refine ⟨c :: body, List.forall_mem_cons.2 ⟨⟨?_, ?_⟩, inLine⟩, rfl, ends⟩
    · rintro rfl
      exact notReturn rfl
    · rintro rfl
      exact notFeed rfl

/-! ## Layout -/

theorem isSpace_iff {c : Char} :
    isSpace c = true ↔ c = ' ' ∨ c = '\t' ∨ c = '\r' ∨ c = '\n' := by
  simp [isSpace, or_assoc]

theorem skipLayout_space {c : Char} {text : List Char} (space : isSpace c = true) :
    skipLayout (c :: text) = skipLayout text := by
  rw [skipLayout, if_pos space]

theorem skipLayout_comment {text after : List Char} (found : afterComment? text = some after) :
    skipLayout ('%' :: text) = skipLayout after := by
  rw [skipLayout, if_neg (by decide), if_pos rfl]
  split
  · rename_i other foundOther
    rw [found] at foundOther
    cases foundOther
    rfl
  · rename_i none
    rw [found] at none
    cases none

theorem skipLayout_percent {text : List Char} (none : afterComment? text = none) :
    skipLayout ('%' :: text) = '%' :: text := by
  rw [skipLayout, if_neg (by decide), if_pos rfl]
  split
  · rename_i found
    rw [none] at found
    cases found
  · rfl

theorem skipLayout_word {c : Char} {text : List Char} (noSpace : isSpace c = false)
    (noComment : c ≠ '%') : skipLayout (c :: text) = c :: text := by
  rw [skipLayout, if_neg (by simp [noSpace]), if_neg noComment]

theorem skipLayout_lineEnd {lineEnd text : List Char} (ends : IsLineEnd lineEnd) :
    skipLayout (lineEnd ++ text) = skipLayout text := by
  cases ends with
  | feed => exact skipLayout_space rfl
  | returnFeed => exact (skipLayout_space rfl).trans (skipLayout_space rfl)

/-- Layout is skipped. -/
theorem skipLayout_append {gap : List Char} (layout : IsLayout gap) (text : List Char) :
    skipLayout (gap ++ text) = skipLayout text := by
  induction layout with
  | nil => rfl
  | space space _ ih => exact (skipLayout_space (isSpace_iff.2 space)).trans ih
  | @comment body lineEnd gap inLine ends _ ih =>
    rw [List.append_assoc, List.append_assoc, List.cons_append,
      skipLayout_comment (afterComment?_eq_lineEnd inLine ends), skipLayout_lineEnd ends, ih]

/-- At the end of a text a comment without a line end is skipped as well. -/
theorem skipLayout_eq_nil {text : List Char} (last : IsLastLayout text) : skipLayout text = [] := by
  have nothing : skipLayout [] = [] := by rw [skipLayout]
  cases last with
  | layout layout => rw [← List.append_nil text, skipLayout_append layout, nothing]
  | comment layout inLine =>
    rw [skipLayout_append layout, skipLayout_comment (afterComment?_eq_nil inLine), nothing]

theorem IsLayout.append {gap text : List Char} (layout : IsLayout gap) (more : IsLayout text) :
    IsLayout (gap ++ text) := by
  induction layout with
  | nil => exact more
  | space space _ ih => exact .space space ih
  | comment inLine ends _ ih =>
    rw [List.append_assoc]
    exact .comment inLine ends ih

/-- A comment that runs to the end of its line is layout along with what follows it. -/
theorem IsLastLayout.behind {gap text : List Char} (layout : IsLayout gap)
    (last : IsLastLayout text) : IsLastLayout (gap ++ text) := by
  cases last with
  | layout more => exact .layout (layout.append more)
  | comment more inLine =>
    rw [← List.append_assoc]
    exact .comment (layout.append more) inLine

/-- What is skipped is layout. -/
theorem skipLayout_cases (text : List Char) :
    (∃ gap, IsLayout gap ∧ text = gap ++ skipLayout text) ∨
      skipLayout text = [] ∧ IsLastLayout text := by
  match text with
  | [] => exact .inl ⟨[], .nil, by rw [skipLayout]; rfl⟩
  | c :: text =>
    by_cases space : isSpace c = true
    · rw [skipLayout_space space]
      have spaced : IsLayout [c] := .space (isSpace_iff.1 space) .nil
      obtain ⟨gap, layout, whole⟩ | ⟨nothing, last⟩ := skipLayout_cases text
      · exact .inl ⟨c :: gap, .space (isSpace_iff.1 space) layout, congrArg (c :: ·) whole⟩
      · exact .inr ⟨nothing, last.behind spaced⟩
    · by_cases percent : c = '%'
      · subst percent
        cases found : afterComment? text with
        | none => exact .inl ⟨[], .nil, (skipLayout_percent found).symm⟩
        | some after =>
          rw [skipLayout_comment found]
          obtain ⟨body, inLine, rfl, rfl | ⟨lineEnd, rest, ends, rfl⟩⟩ := afterComment?_cases found
          · rw [List.append_nil]
            exact .inr ⟨by rw [skipLayout], .comment .nil inLine⟩
          · rw [skipLayout_lineEnd ends]
            have commented : IsLayout ('%' :: body ++ lineEnd ++ []) := .comment inLine ends .nil
            obtain ⟨gap, layout, whole⟩ | ⟨nothing, last⟩ := skipLayout_cases rest
            · refine .inl ⟨'%' :: body ++ lineEnd ++ gap, .comment inLine ends layout, ?_⟩
              rw [List.append_assoc, List.append_assoc, ← whole, List.cons_append]
            · refine .inr ⟨nothing, ?_⟩
              have behind := last.behind commented
              rwa [List.append_nil, List.append_assoc, List.cons_append] at behind
      · exact .inl ⟨[], .nil, (skipLayout_word (by simpa using space) percent).symm⟩
  termination_by text.length

/-- What comes first behind layout is behind layout. -/
theorem exists_gap (text : List Char) (more : skipLayout text ≠ []) :
    ∃ gap, IsLayout gap ∧ text = gap ++ skipLayout text := by
  obtain found | ⟨nothing, -⟩ := skipLayout_cases text
  · exact found
  · exact absurd nothing more

theorem skipLayout_eq_nil_iff {text : List Char} : skipLayout text = [] ↔ IsLastLayout text := by
  constructor
  · intro nothing
    obtain ⟨gap, layout, whole⟩ | ⟨-, last⟩ := skipLayout_cases text
    · rw [nothing, List.append_nil] at whole
      exact whole ▸ .layout layout
    · exact last
  · exact skipLayout_eq_nil

/-- Skipping layout twice is skipping it once. -/
theorem skipLayout_skipLayout (text : List Char) :
    skipLayout (skipLayout text) = skipLayout text := by
  obtain ⟨gap, layout, whole⟩ | ⟨nothing, -⟩ := skipLayout_cases text
  · have same := congrArg skipLayout whole
    rw [skipLayout_append layout] at same
    exact same.symm
  · rw [nothing, skipLayout]

/-! ## Marks -/

/-- The marks of the notation. -/
def marks : List (List Char) := [[','], ['#'], [':'], ['.'], ['-', '>'], ['-', 'o']]

/-- No mark starts like layout or like a label. -/
theorem mark_head {sign : List Char} (known : sign ∈ marks) :
    ∃ c rest, sign = c :: rest ∧ isSpace c = false ∧ c ≠ '%' ∧ isLabelChar c = false := by
  simp only [marks, List.mem_cons, List.not_mem_nil, or_false] at known
  rcases known with rfl | rfl | rfl | rfl | rfl | rfl <;>
    exact ⟨_, _, rfl, by decide +kernel, by decide +kernel, by decide +kernel⟩

/-- No mark is the beginning of another. -/
theorem marks_differ : ∀ sign ∈ marks, ∀ other ∈ marks, other <+: sign → other = sign := by
  decide

/-- A mark comes next behind layout. -/
def Ahead (sign text : List Char) : Prop := sign ∈ marks ∧ sign <+: skipLayout text

theorem mark_eq_some_iff {sign text rest : List Char} :
    mark sign text = some ((), rest) ↔ skipLayout text = sign ++ rest := by
  simp only [mark, Option.map_eq_some_iff, Prod.mk.injEq, List.isPrefixOf?_eq_some_iff_append_eq,
    true_and, exists_eq_right]
  exact eq_comm

/-- A mark that has been read was there. -/
theorem isMark_of_mark {sign text rest : List Char} (known : sign ∈ marks) {value : Unit}
    (read : mark sign text = some (value, rest)) :
    ∃ spelled, text = spelled ++ rest ∧ IsMark sign spelled := by
  have found := mark_eq_some_iff.1 read
  obtain ⟨c, more, rfl, -⟩ := mark_head known
  obtain ⟨gap, layout, whole⟩ := exists_gap text (by simp [found])
  rw [found, ← List.append_assoc] at whole
  exact ⟨_, whole, .mk layout⟩

/-- A mark is read wherever it stands. -/
theorem IsMark.read {sign spelled : List Char} (isMark : IsMark sign spelled)
    (known : sign ∈ marks) (rest : List Char) : mark sign (spelled ++ rest) = some ((), rest) := by
  obtain ⟨layout⟩ := isMark
  obtain ⟨c, more, rfl, noSpace, noComment, -⟩ := mark_head known
  rw [mark_eq_some_iff, List.append_assoc, skipLayout_append layout, List.cons_append,
    skipLayout_word noSpace noComment]

theorem IsMark.ahead {sign spelled : List Char} (isMark : IsMark sign spelled)
    (known : sign ∈ marks) (rest : List Char) : Ahead sign (spelled ++ rest) :=
  ⟨known, rest, (mark_eq_some_iff.1 (isMark.read known rest)).symm⟩

/-- Where a mark is ahead no other mark is read. -/
theorem Ahead.mark_eq_none {sign other text : List Char} (ahead : Ahead sign text)
    (differ : other ∈ marks ∧ other ≠ sign) : mark other text = none := by
  cases read : mark other text with
  | none => rfl
  | some result =>
    have isPrefix : other <+: skipLayout text := ⟨_, (mark_eq_some_iff.1 read).symm⟩
    rcases List.prefix_or_prefix_of_prefix isPrefix ahead.2 with shorter | longer
    · exact absurd (marks_differ sign ahead.1 other differ.1 shorter) differ.2
    · exact absurd (marks_differ other differ.1 sign ahead.1 longer).symm differ.2

/-! ## Labels -/

/-- No label goes on in this text. -/
def Stops (text : List Char) : Prop := ∀ c ∈ text.head?, isLabelChar c = false

/-- A label character is no layout. -/
theorem skipLayout_labelChar {c : Char} {text : List Char} (inLabel : isLabelChar c = true) :
    skipLayout (c :: text) = c :: text := by
  refine skipLayout_word ?_ ?_
  · refine Bool.eq_false_iff.2 fun space => ?_
    obtain rfl | rfl | rfl | rfl := isSpace_iff.1 space <;>
      exact absurd inLabel (by decide +kernel)
  · rintro rfl
    exact absurd inLabel (by decide +kernel)

/-- A mark ends a label. -/
theorem Ahead.stops {sign text : List Char} (ahead : Ahead sign text) : Stops text := by
  obtain ⟨known, rest, comes⟩ := ahead
  obtain ⟨d, more, rfl, -, -, noLabel⟩ := mark_head known
  intro c first
  refine Bool.eq_false_iff.2 fun inLabel => ?_
  obtain ⟨after, rfl⟩ := List.head?_eq_some_iff.1 first
  rw [skipLayout_labelChar inLabel, List.cons_append] at comes
  rw [← (List.cons.inj comes).1, noLabel] at inLabel
  cases inLabel

theorem Stops.takeWhile_eq_nil {text : List Char} (stops : Stops text) :
    text.takeWhile isLabelChar = [] ∧ text.dropWhile isLabelChar = text := by
  cases text with
  | nil => exact ⟨rfl, rfl⟩
  | cons c text =>
    have noLabel := stops c rfl
    simp [noLabel]

theorem bareLabel_append {name : String} (isName : IsName name) {rest : List Char}
    (stops : Stops rest) : bareLabel (name.toList ++ rest) = some (name, rest) := by
  obtain ⟨nonempty, inLabel⟩ := isName
  obtain ⟨none, all⟩ := stops.takeWhile_eq_nil
  rw [bareLabel, List.takeWhile_append_of_pos inLabel, List.dropWhile_append_of_pos inLabel,
    none, all, List.append_nil]
  split
  · rename_i empty
    exact absurd empty nonempty
  · rw [String.ofList_toList]

theorem isName_of_bareLabel {text rest : List Char} {name : String}
    (read : bareLabel text = some (name, rest)) : text = name.toList ++ rest ∧ IsName name := by
  unfold bareLabel at read
  split at read
  · cases read
  · rename_i nonempty
    cases read
    rw [IsName, String.toList_ofList]
    exact ⟨List.takeWhile_append_dropWhile.symm, nonempty, List.all_eq_true.1 List.all_takeWhile⟩

/-- Where a mark is ahead no label is read. -/
theorem Ahead.label_eq_none {sign text : List Char} (ahead : Ahead sign text) :
    label text = none := by
  obtain ⟨known, rest, comes⟩ := ahead
  obtain ⟨c, more, rfl, -, -, noLabel⟩ := mark_head known
  have none : ((c :: more) ++ rest).takeWhile isLabelChar = [] := by simp [noLabel]
  rw [label, bareLabel, ← comes, none]

/-- Where there is a label no mark is read. -/
theorem mark_eq_none_of_label {sign text rest : List Char} {name : String} (known : sign ∈ marks)
    (read : label text = some (name, rest)) : mark sign text = none := by
  obtain ⟨whole, nonempty, inLabel⟩ := isName_of_bareLabel read
  obtain ⟨d, more, rfl, -, -, noLabel⟩ := mark_head known
  cases marked : mark (d :: more) text with
  | none => rfl
  | some result =>
    obtain ⟨c, others, spelled⟩ := List.exists_cons_of_ne_nil nonempty
    have comes := mark_eq_some_iff.1 marked
    rw [whole, spelled, List.cons_append, List.cons_append] at comes
    rw [← (List.cons.inj comes).1, inLabel c (spelled ▸ List.mem_cons_self)] at noLabel
    cases noLabel

end EventNet.Notation
