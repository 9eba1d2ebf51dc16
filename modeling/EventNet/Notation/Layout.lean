import EventNet.Reader
import EventNet.Text.LetterOrNumber

/-!
# Layout and words of the net notation

Between the words of a text there may be spaces, tabs, line ends and comments. A
comment starts with a per cent sign and runs up to the end of its line. A carriage
return ends a line only together with a line feed; a comment that meets one standing
alone is no comment, and then its per cent sign is not layout either.

The words are fixed marks and labels. A label is a run of letters, numbers and low
lines.
-/

set_option autoImplicit false

namespace EventNet.Notation

/-- A character that separates words. -/
def isSpace (c : Char) : Bool :=
  c == ' ' || c == '\t' || c == '\r' || c == '\n'

/-- A character of a label. -/
def isLabelChar (c : Char) : Bool :=
  Text.isLetterOrNumber c || c == '_'

/-- What follows the rest of a comment: the end of the line and all after it, or nothing.
There is no answer if a carriage return without a line feed comes first. -/
def afterComment? : List Char → Option (List Char)
  | [] => some []
  | '\n' :: rest => some ('\n' :: rest)
  | '\r' :: '\n' :: rest => some ('\r' :: '\n' :: rest)
  | '\r' :: _ => none
  | _ :: rest => afterComment? rest

theorem length_afterComment? {text after : List Char} (found : afterComment? text = some after) :
    after.length ≤ text.length := by
  fun_induction afterComment? text with
  | case1 => simp_all
  | case2 rest => cases found; exact Nat.le_refl _
  | case3 rest => cases found; exact Nat.le_refl _
  | case4 => simp at found
  | case5 c rest _ _ _ ih => exact Nat.le_succ_of_le (ih found)

/-- The text without the layout at its start. -/
def skipLayout (text : List Char) : List Char :=
  match text with
  | [] => []
  | c :: rest =>
    if isSpace c then skipLayout rest
    else if c = '%' then
      match _ : afterComment? rest with
      | some after => skipLayout after
      | none => c :: rest
    else c :: rest
  termination_by text.length
  decreasing_by
    · simp
    · exact Nat.lt_succ_of_le (length_afterComment? (by assumption))

theorem length_skipLayout (text : List Char) : (skipLayout text).length ≤ text.length := by
  fun_induction skipLayout text with
  | case1 => exact Nat.le_refl _
  | case2 c rest _ ih => exact Nat.le_succ_of_le ih
  | case3 rest after found _ ih =>
    exact Nat.le_succ_of_le (Nat.le_trans ih (length_afterComment? found))
  | case4 => exact Nat.le_refl _
  | case5 => exact Nat.le_refl _

/-- Reads a fixed mark after layout. -/
def mark (sign : List Char) : Reader Unit := fun text =>
  (sign.isPrefixOf? (skipLayout text)).map fun rest => ((), rest)

/-- Reads a label that starts at once. -/
def bareLabel : Reader String := fun text =>
  match text.takeWhile isLabelChar with
  | [] => none
  | name => some (String.ofList name, text.dropWhile isLabelChar)

/-- Reads a label after layout. -/
def label : Reader String := fun text => bareLabel (skipLayout text)

/-- Reads one or more items with commas between them. A comma that no item follows is left. -/
def commaSeparated {α : Type} (item : Reader α) : Reader (List α) := fun text => do
  let (first, rest) ← item text
  let (more, rest) := Reader.many (fun text => do let (_, rest) ← mark [','] text; item rest) rest
  return (first :: more, rest)

theorem length_isPrefixOf? {sign text rest : List Char}
    (found : sign.isPrefixOf? text = some rest) : text.length = sign.length + rest.length := by
  induction sign generalizing text with
  | nil =>
    have whole : some text = some rest := found
    cases whole
    exact (Nat.zero_add _).symm
  | cons c sign ih =>
    cases text with
    | nil => cases found
    | cons d text =>
      have found : (if c == d then sign.isPrefixOf? text else none) = some rest := found
      split at found
      · have := ih found
        simp only [List.length_cons, this]
        omega
      · simp at found

theorem length_mark {sign text rest : List Char} {value : Unit}
    (found : mark sign text = some (value, rest)) : rest.length + sign.length ≤ text.length := by
  simp only [mark, Option.map_eq_some_iff, Prod.mk.injEq] at found
  obtain ⟨after, found, _, rfl⟩ := found
  have := length_isPrefixOf? found
  have := length_skipLayout text
  omega

theorem bareLabel_shortens : Reader.Shortens bareLabel := by
  intro text name rest found
  simp only [bareLabel] at found
  split at found
  · simp at found
  · rename_i nonempty
    simp only [Option.some.injEq, Prod.mk.injEq] at found
    obtain ⟨_, rfl⟩ := found
    have whole : text.takeWhile isLabelChar ++ text.dropWhile isLabelChar = text :=
      List.takeWhile_append_dropWhile
    have lengths := congrArg List.length whole
    rw [List.length_append] at lengths
    have positive : 0 < (text.takeWhile isLabelChar).length := by
      cases taken : text.takeWhile isLabelChar with
      | nil => exact absurd taken (by simpa using nonempty)
      | cons => simp
    omega

theorem label_shortens : Reader.Shortens label := by
  intro text name rest found
  exact Nat.lt_of_lt_of_le (bareLabel_shortens _ _ _ found) (length_skipLayout text)

theorem commaSeparated_shortens {α : Type} {item : Reader α} (shortens : item.Shortens) :
    (commaSeparated item).Shortens := by
  intro text values rest found
  simp only [commaSeparated, Option.bind_eq_bind, Option.bind_eq_some_iff, Option.pure_def,
    Option.some.injEq, Prod.mk.injEq] at found
  obtain ⟨⟨first, after⟩, one, _, rfl⟩ := found
  exact Nat.lt_of_le_of_lt (Reader.length_many _ _) (shortens _ _ _ one)

end EventNet.Notation
