import EventNet.Net.Dot
import EventNet.Proofs.Guarded.Lists

/-!
# Labels in quotation marks

In a quoted text a backslash and the character behind it belong together; everything else stands
for itself. Such a text ends at the first quotation mark that stands by itself (`cut`).

A label is written character by character, and each of its characters is one piece of the quoted
text (`pieceOf`), from which it can be read again (`char_pieceOf`). A quotation mark, the end of a
line and a mark that structures a record never stand by themselves (`plain_mem_pieces`). So the
quoted text ends where the label does, whatever follows it (`cut_dotLabel_append`), and labels
that stand beside each other in a record are told apart (`record?_record`).
-/

set_option autoImplicit false

namespace EventNet.Dot

/-! ## Quoted texts -/

/-- A piece of a quoted text. -/
inductive Piece where
  /-- A character that stands for itself. -/
  | plain (c : Char)
  /-- A character behind a backslash. -/
  | escaped (c : Char)
  deriving DecidableEq

/-- How a piece is written. -/
def Piece.write : Piece → List Char
  | plain c => [c]
  | escaped c => ['\\', c]

/-- How a quoted text is written. -/
def write (pieces : List Piece) : List Char := pieces.flatMap Piece.write

@[simp] theorem write_nil : write [] = [] := rfl

@[simp] theorem write_cons (piece : Piece) (pieces : List Piece) :
    write (piece :: pieces) = piece.write ++ write pieces := List.flatMap_cons

@[simp] theorem write_append (first second : List Piece) :
    write (first ++ second) = write first ++ write second := List.flatMap_append

/-- The pieces of a text up to a quotation mark that stands by itself, and what is left from there
on. A backslash behind which nothing stands is left as well. -/
def cut : List Char → List Piece × List Char
  | [] => ([], [])
  | '"' :: rest => ([], '"' :: rest)
  | ['\\'] => ([], ['\\'])
  | '\\' :: c :: rest => (.escaped c :: (cut rest).1, (cut rest).2)
  | c :: rest => (.plain c :: (cut rest).1, (cut rest).2)

/-- A piece that does not end the text and is no backslash alone. -/
def Piece.IsInside (piece : Piece) : Prop := piece ≠ .plain '"' ∧ piece ≠ .plain '\\'

instance (piece : Piece) : Decidable piece.IsInside := inferInstanceAs (Decidable (_ ∧ _))

theorem cut_piece {piece : Piece} (isInside : piece.IsInside) (rest : List Char) :
    cut (piece.write ++ rest) = (piece :: (cut rest).1, (cut rest).2) := by
  obtain ⟨noQuote, noBackslash⟩ := isInside
  cases piece with
  | plain c =>
    show cut (c :: rest) = _
    rw [cut]
    · rintro rfl
      exact noQuote rfl
    · rintro rfl
      exact absurd rfl noBackslash
    · rintro _ _ rfl
      exact absurd rfl noBackslash
  | escaped c => rfl

/-- **A text is cut where it ends.** -/
theorem cut_write_append {pieces : List Piece} (isInside : ∀ piece ∈ pieces, piece.IsInside)
    (rest : List Char) : cut (write pieces ++ rest) = (pieces ++ (cut rest).1, (cut rest).2) := by
  induction pieces with
  | nil => rfl
  | cons piece pieces ih =>
    obtain ⟨here, others⟩ := List.forall_mem_cons.1 isInside
    rw [write_cons, List.append_assoc, cut_piece here, ih others]
    rfl

theorem length_cut (text : List Char) : (cut text).2.length ≤ text.length := by
  fun_induction cut text with
  | case1 | case2 | case3 => exact Nat.le_refl _
  | case4 c rest ih => exact Nat.le_succ_of_le (Nat.le_succ_of_le ih)
  | case5 c rest _ _ _ ih => exact Nat.le_succ_of_le ih

/-! ## Labels -/

/-- The marks that structure a record. -/
def recordMarks : List Char := ['{', '}', '|', '<', '>']

/-- The piece as which a character of a label is written. -/
def pieceOf (c : Char) : Piece :=
  if c = '\n' then .escaped 'n'
  else if c = '"' ∨ c = '\\' ∨ c ∈ recordMarks then .escaped c
  else .plain c

/-- The character of a label for which a piece stands. -/
def Piece.char : Piece → Char
  | plain c => c
  | escaped c => if c = 'n' then '\n' else c

theorem write_pieceOf (c : Char) : (pieceOf c).write = Net.dotEscaped c := by
  fun_cases Net.dotEscaped c with
  | case1 same | case2 _ same | case3 _ _ same =>
    subst same
    rfl
  | case4 noQuote noBackslash noNewline mark =>
    have listed : c ∈ recordMarks := by simpa [recordMarks] using mark
    rw [pieceOf, if_neg noNewline, if_pos (.inr (.inr listed))]
    rfl
  | case5 noQuote noBackslash noNewline noMark =>
    have unlisted : c ∉ recordMarks := by simpa [recordMarks] using noMark
    rw [pieceOf, if_neg noNewline, if_neg (by simp [noQuote, noBackslash, unlisted])]
    rfl

/-- **Escapes can be undone.** An escaped `n` is the end of a line, for a letter is not
escaped. -/
theorem char_pieceOf (c : Char) : (pieceOf c).char = c := by
  fun_cases pieceOf c with
  | case1 newline => exact newline.symm
  | case2 noNewline escapes =>
    have noLetter : c ≠ 'n' := by
      rintro rfl
      exact absurd escapes (by decide)
    exact if_neg noLetter
  | case3 => rfl

/-- The pieces of a label. -/
def pieces (label : String) : List Piece := label.toList.map pieceOf

/-- The label that has these pieces. -/
def textOf (pieces : List Piece) : String := String.ofList (pieces.map Piece.char)

theorem textOf_pieces (label : String) : textOf (pieces label) = label := by
  have undone : Piece.char ∘ pieceOf = id := funext char_pieceOf
  rw [textOf, pieces, List.map_map, undone, List.map_id, String.ofList_toList]

theorem toList_dotLabel (label : String) : (Net.dotLabel label).toList = write (pieces label) := by
  simp only [Net.dotLabel, String.toList_ofList, write, pieces, List.flatMap_map, write_pieceOf]

/-- A character that stands by itself in a label has no meaning of its own. -/
theorem plain_mem_pieces {label : String} {c : Char} (listed : .plain c ∈ pieces label) :
    c ≠ '"' ∧ c ≠ '\\' ∧ c ≠ '\n' ∧ c ∉ recordMarks := by
  obtain ⟨d, -, same⟩ := List.mem_map.1 listed
  revert same
  fun_cases pieceOf d with
  | case1 | case2 => exact fun same => nomatch same
  | case3 noNewline plain =>
    rintro ⟨⟩
    simpa [noNewline] using plain

theorem isInside_of_mem_pieces {label : String} {piece : Piece} (listed : piece ∈ pieces label) :
    piece.IsInside := by
  constructor
  · rintro rfl
    exact (plain_mem_pieces listed).1 rfl
  · rintro rfl
    exact (plain_mem_pieces listed).2.1 rfl

/-- **A label ends where the quotation mark behind it stands**, and without one it has no end. -/
theorem cut_dotLabel_append (label : String) (rest : List Char) :
    cut ((Net.dotLabel label).toList ++ rest) = (pieces label ++ (cut rest).1, (cut rest).2) := by
  rw [toList_dotLabel]
  exact cut_write_append (fun _ => isInside_of_mem_pieces) rest

/-- A label stays in one line. -/
theorem newline_not_mem_dotLabel (label : String) : '\n' ∉ (Net.dotLabel label).toList := by
  have inLine : ∀ c : Char, '\n' ∉ Net.dotEscaped c := by
    intro c
    fun_cases Net.dotEscaped c with
    | case1 | case2 | case3 => decide
    | case4 _ _ noNewline => simpa using Ne.symm noNewline
    | case5 _ _ noNewline => simpa using Ne.symm noNewline
  rw [Net.dotLabel, String.toList_ofList, List.mem_flatMap]
  rintro ⟨c, -, listed⟩
  exact inLine c listed

/-! ## Records -/

/-- A field of a record, with blanks around it. -/
def field (text : List Piece) : List Piece := .plain ' ' :: (text ++ [.plain ' '])

/-- The label that shows fields beside each other. -/
def record (fields : List (List Piece)) : List Piece :=
  .plain '{' :: ([.plain '|'].intercalate (fields.map field) ++ [.plain '}'])

/-- What stands between the first piece and the last one, if these are as expected. -/
def between? (first last : Piece) : List Piece → Option (List Piece)
  | [] => none
  | piece :: rest =>
    if piece = first ∧ rest.getLast? = some last then some rest.dropLast else none

theorem isInside_of_mem_field {text : List Piece} (isInside : ∀ piece ∈ text, piece.IsInside) :
    ∀ piece ∈ field text, piece.IsInside :=
  List.forall_mem_cons.2 ⟨by decide,
    List.forall_mem_append.2 ⟨isInside, List.forall_mem_singleton.2 (by decide)⟩⟩

/-- A record goes into quotation marks if its fields do. -/
theorem isInside_of_mem_record {fields : List (List Piece)}
    (isInside : ∀ text ∈ fields, ∀ piece ∈ text, piece.IsInside) :
    ∀ piece ∈ record fields, piece.IsInside := by
  have rows : ∀ piece ∈ [.plain '|'].intercalate (fields.map field), piece.IsInside := by
    induction fields with
    | nil => simp
    | cons first others ih =>
      obtain ⟨here, there⟩ := List.forall_mem_cons.1 isInside
      cases others with
      | nil =>
        rw [List.map_singleton, List.intercalate_singleton]
        exact isInside_of_mem_field here
      | cons second others =>
        rw [List.map_cons, List.map_cons, List.intercalate_cons_cons, ← List.map_cons]
        exact List.forall_mem_append.2 ⟨List.forall_mem_append.2
          ⟨isInside_of_mem_field here, List.forall_mem_singleton.2 (by decide)⟩, ih there⟩
  exact List.forall_mem_cons.2 ⟨by decide,
    List.forall_mem_append.2 ⟨rows, List.forall_mem_singleton.2 (by decide)⟩⟩

/-- The fields of a label. -/
def record? (label : List Piece) : Option (List (List Piece)) :=
  (between? (.plain '{') (.plain '}') label).bind fun inside =>
    (inside.splitOn (.plain '|')).mapM (between? (.plain ' ') (.plain ' '))

theorem between?_concat (first last : Piece) (inside : List Piece) :
    between? first last (first :: (inside ++ [last])) = some inside := by
  rw [between?, if_pos ⟨rfl, List.getLast?_concat⟩, List.dropLast_concat]

/-- **The fields of a record are told apart** if none of them holds a bar that stands by
itself. -/
theorem record?_record {fields : List (List Piece)} (nonempty : fields ≠ [])
    (noBar : ∀ text ∈ fields, .plain '|' ∉ text) : record? (record fields) = some fields := by
  have apart : ([.plain '|'].intercalate (fields.map field)).splitOn (.plain '|') =
      fields.map field := by
    refine List.splitOn_intercalate _ ?_ (by simpa using nonempty)
    rw [List.forall_mem_map]
    intro text listed
    simp [field, noBar text listed]
  have each : ∀ text ∈ fields, between? (.plain ' ') (.plain ' ') (field text) = some text :=
    fun text _ => between?_concat _ _ text
  rw [record?, record, between?_concat, Option.bind_some, apart, Guarded.mapM_map_eq_some each,
    List.map_id']

end EventNet.Dot
