import EventNet.Net.Pnml

/-!
# Reading marked-up text

A reader of texts with tags in them, apart from the way in which documents are written. A tag
stands between angle brackets and has a name and attributes, with their values in quotation
marks. Text and values may hold references to the five characters that cannot stand for
themselves everywhere. A closing tag is one whose name starts with a slash, and at the end of a
tag with attributes there may be a sign, which tells an empty element or an instruction.

A document is read as its tags, each with the text that stands before it (`Piece`). Whatever
these texts and the values of attributes are, pieces that are written one after another are read
as they were (`read?_write`), for escaping leaves no character in a text that could be taken for
the start of a tag or the end of a value, and it can be undone (`unescape?_escape`).
-/

set_option autoImplicit false

namespace EventNet.Markup

/-! ## Escapes -/

/-- The text as it is written in a document. -/
def escape (text : String) : List Char := text.toList.flatMap Net.xmlEscaped

/-- The character for which a reference stands. -/
def referred? : List Char → Option Char
  | ['a', 'm', 'p'] => some '&'
  | ['l', 't'] => some '<'
  | ['g', 't'] => some '>'
  | ['q', 'u', 'o', 't'] => some '"'
  | ['a', 'p', 'o', 's'] => some '\''
  | _ => none

/-- Takes the references out of a text. Inside a reference, what has been read of its name is
given. -/
def unescapeFrom : Option (List Char) → List Char → Option (List Char)
  | none, [] => some []
  | some _, [] => none
  | none, c :: rest =>
    if c = '&' then unescapeFrom (some []) rest else (unescapeFrom none rest).map (c :: ·)
  | some name, c :: rest =>
    if c = ';' then
      match referred? name with
      | none => none
      | some character => (unescapeFrom none rest).map (character :: ·)
    else unescapeFrom (some (name ++ [c])) rest

/-- The text that is written like this. -/
def unescape? (written : List Char) : Option String :=
  (unescapeFrom none written).map String.ofList

theorem unescapeFrom_xmlEscaped (c : Char) (rest : List Char) :
    unescapeFrom none (Net.xmlEscaped c ++ rest) = (unescapeFrom none rest).map (c :: ·) := by
  fun_cases Net.xmlEscaped c with
  | case6 c notAmpersand => exact if_neg notAmpersand
  | _ => rfl

/-- **Escapes can be undone.** -/
theorem unescape?_escape (text : String) : unescape? (escape text) = some text := by
  have undone : ∀ chars : List Char,
      unescapeFrom none (chars.flatMap Net.xmlEscaped) = some chars := by
    intro chars
    induction chars with
    | nil => rfl
    | cons c chars ih => rw [List.flatMap_cons, unescapeFrom_xmlEscaped, ih, Option.map_some]
  rw [unescape?, escape, undone, Option.map_some, String.ofList_toList]

/-- What is escaped holds no angle bracket and no quotation mark. -/
theorem not_mem_escape (text : String) : '<' ∉ escape text ∧ '"' ∉ escape text := by
  have plain : ∀ c : Char, '<' ∉ Net.xmlEscaped c ∧ '"' ∉ Net.xmlEscaped c := by
    intro c
    fun_cases Net.xmlEscaped c with
    | case6 c _ notLess _ notQuote =>
      simp only [List.mem_singleton]
      exact ⟨fun same => notLess same.symm, fun same => notQuote same.symm⟩
    | _ => decide
  constructor <;> intro listed <;> obtain ⟨c, -, inside⟩ := List.mem_flatMap.1 listed
  · exact (plain c).1 inside
  · exact (plain c).2 inside

/-! ## The reader -/

/-- A tag, by what stands between its angle brackets. -/
structure Tag where
  /-- The name, with the slash of a closing tag. -/
  name : String
  attributes : List (String × String) := []
  /-- What stands at the end of a tag with attributes, if anything does. -/
  sign : Option Char := none
  deriving DecidableEq

/-- A tag and the text in front of it. -/
structure Piece where
  text : String
  tag : Tag
  deriving DecidableEq

/-- Where the reader is. -/
inductive Mode where
  | text
  | name
  /-- In the name of an attribute. -/
  | key
  /-- Before the quotation mark that opens a value. -/
  | opening
  | value
  /-- Behind the value of an attribute. -/
  | behind
  /-- Behind the sign at the end of a tag. -/
  | ending
  deriving DecidableEq

/-- A character that has a meaning of its own in this place. -/
def Mode.isSign : Mode → Char → Bool
  | text, c => c == '<'
  | name, c => c == ' ' || c == '<' || c == '>'
  | key, c => c == '='
  | value, c => c == '"' || c == '<'
  | opening, _ | behind, _ | ending, _ => true

/-- A text in which no character has a meaning of its own. -/
def Mode.IsPlain (mode : Mode) (text : List Char) : Prop := ∀ c ∈ text, mode.isSign c = false

instance (mode : Mode) (text : List Char) : Decidable (mode.IsPlain text) :=
  decidable_of_iff (text.all (fun c => !mode.isSign c) = true) (by simp [Mode.IsPlain])

theorem isPlain_escape (text : String) :
    Mode.text.IsPlain (escape text) ∧ Mode.value.IsPlain (escape text) := by
  obtain ⟨noBracket, noQuote⟩ := not_mem_escape text
  refine ⟨fun c listed => ?_, fun c listed => ?_⟩
  · exact beq_eq_false_iff_ne.2 fun same => noBracket (same ▸ listed)
  · simp only [Mode.isSign, Bool.or_eq_false_iff, beq_eq_false_iff_ne]
    exact ⟨fun same => noQuote (same ▸ listed), fun same => noBracket (same ▸ listed)⟩

/-- What has been read so far. -/
structure Scan where
  mode : Mode := .text
  pieces : List Piece := []
  /-- The text in front of the tag that has not come to an end yet. -/
  text : String := ""
  tag : Tag := { name := "" }
  /-- The name of the attribute whose value has not come to an end yet. -/
  key : String := ""
  /-- What has been read since the last sign. -/
  current : List Char := []

namespace Scan

/-- The end of a tag. -/
def endTag (scan : Scan) : Scan := { pieces := scan.pieces ++ [⟨scan.text, scan.tag⟩] }

/-- A sign behind the name of a tag or an attribute. -/
def turnBehind (scan : Scan) (c : Char) : Option Scan :=
  if c = ' ' then some { scan with mode := .key }
  else if c = '>' then some scan.endTag
  else if c = '/' ∨ c = '?' then
    some { scan with mode := .ending, tag := { scan.tag with sign := some c } }
  else none

/-- The name of the tag has come to an end. -/
def endName (scan : Scan) : Scan :=
  { scan with mode := .behind, tag := { name := String.ofList scan.current }, current := [] }

/-- The attribute has come to an end with this value. -/
def endValue (scan : Scan) (value : String) : Scan :=
  { scan with
    mode := .behind
    tag := { scan.tag with attributes := scan.tag.attributes ++ [(scan.key, value)] }
    key := ""
    current := [] }

/-- Takes in a sign, if it may stand there. -/
def turn (scan : Scan) (c : Char) : Option Scan :=
  match scan.mode with
  | .text => (unescape? scan.current).map fun text =>
      { scan with mode := .name, text, current := [] }
  | .name => scan.endName.turnBehind c
  | .key => some { scan with mode := .opening, key := String.ofList scan.current, current := [] }
  | .opening => if c = '"' then some { scan with mode := .value } else none
  | .value => if c = '"' then (unescape? scan.current).map scan.endValue else none
  | .behind => scan.turnBehind c
  | .ending => if c = '>' then some scan.endTag else none

/-- Takes in a character. -/
def step (scan : Scan) (c : Char) : Option Scan :=
  if scan.mode.isSign c then scan.turn c else some { scan with current := scan.current ++ [c] }

/-- Takes in a text. -/
def run (scan : Scan) (text : List Char) : Option Scan := text.foldlM step scan

end Scan

/-- Reads a document as its tags and the text behind the last of them. -/
def read? (document : String) : Option (List Piece × String) :=
  match Scan.run {} document.toList with
  | some scan =>
    if scan.mode = .text then (unescape? scan.current).map fun text => (scan.pieces, text) else none
  | none => none

/-! ## Documents -/

/-- An attribute in a tag. -/
def writeAttribute (entry : String × String) : List Char :=
  ' ' :: (entry.1.toList ++ '=' :: '"' :: (escape entry.2 ++ ['"']))

/-- A tag in a document. -/
def Tag.write (tag : Tag) : List Char :=
  '<' :: (tag.name.toList ++ tag.attributes.flatMap writeAttribute ++ tag.sign.toList ++ ['>'])

/-- A tag and the text in front of it in a document. -/
def Piece.write (piece : Piece) : List Char := escape piece.text ++ piece.tag.write

/-- A document with this text behind its last tag. -/
def write (pieces : List Piece) (last : String) : List Char :=
  pieces.flatMap Piece.write ++ escape last

/-- A tag that can be read back: no sign stands in its name or in that of an attribute, and the
sign at its end stands behind an attribute. -/
structure Tag.IsPlain (tag : Tag) : Prop where
  name_plain : Mode.name.IsPlain tag.name.toList
  keys_plain : ∀ entry ∈ tag.attributes, Mode.key.IsPlain entry.1.toList
  sign_known : tag.sign = none ∨ tag.sign = some '/' ∨ tag.sign = some '?'
  sign_behind : tag.attributes = [] → tag.sign = none

instance (tag : Tag) : Decidable tag.IsPlain :=
  decidable_of_iff
    (Mode.name.IsPlain tag.name.toList ∧
      (∀ entry ∈ tag.attributes, Mode.key.IsPlain entry.1.toList) ∧
      (tag.sign = none ∨ tag.sign = some '/' ∨ tag.sign = some '?') ∧
      (tag.attributes = [] → tag.sign = none))
    ⟨fun ⟨name, keys, known, behind⟩ => ⟨name, keys, known, behind⟩,
      fun ⟨name, keys, known, behind⟩ => ⟨name, keys, known, behind⟩⟩

namespace Scan

variable {scan : Scan} {rest : List Char}

theorem run_cons (scan : Scan) (c : Char) (rest : List Char) :
    scan.run (c :: rest) = (scan.step c).bind fun next => next.run rest :=
  List.foldlM_cons

/-- Characters without a meaning of their own. -/
theorem run_plain {text : List Char} (plain : scan.mode.IsPlain text) :
    scan.run (text ++ rest) = { scan with current := scan.current ++ text }.run rest := by
  induction text generalizing scan with
  | nil => rw [List.nil_append, List.append_nil]
  | cons c text ih =>
    obtain ⟨here, others⟩ := List.forall_mem_cons.1 plain
    have taken : scan.step c = some { scan with current := scan.current ++ [c] } := by
      rw [step, here]
      rfl
    have further := @ih { scan with current := scan.current ++ [c] } others
    rw [List.cons_append, run_cons, taken, Option.bind_some, further, List.append_assoc,
      List.singleton_append]

/-- A sign. -/
theorem run_sign {c : Char} (sign : scan.mode.isSign c = true) :
    scan.run (c :: rest) = (scan.turn c).bind fun next => next.run rest := by
  rw [run_cons, step, if_pos sign]

/-- Plain characters and the sign behind them. -/
theorem run_plain_sign {text : List Char} {c : Char} (empty : scan.current = [])
    (plain : scan.mode.IsPlain text) (sign : scan.mode.isSign c = true) :
    scan.run (text ++ c :: rest) =
      ({ scan with current := text }.turn c).bind fun next => next.run rest := by
  rw [run_plain plain, empty, List.nil_append]
  exact run_sign sign

variable (pieces : List Piece) (text : String) (tag : Tag)

/-- A text up to the tag behind it. -/
theorem run_text :
    Scan.run { pieces } (escape text ++ '<' :: rest) =
      Scan.run { mode := .name, pieces, text } rest := by
  rw [run_plain_sign rfl (isPlain_escape text).1 rfl]
  simp only [turn, unescape?_escape, Option.map_some, Option.bind_some]

/-- Behind the name of a tag stands a sign. -/
theorem run_name {name : String} (plain : Mode.name.IsPlain name.toList)
    {c : Char} (sign : Mode.name.isSign c = true) :
    Scan.run { mode := .name, pieces, text } (name.toList ++ c :: rest) =
      Scan.run { mode := .behind, pieces, text, tag := { name } } (c :: rest) := by
  rw [run_plain_sign rfl plain sign, run_sign rfl]
  simp only [turn, endName, String.ofList_toList]

/-- An attribute. -/
theorem run_attribute (entry : String × String)
    (plain : Mode.key.IsPlain entry.1.toList) :
    Scan.run { mode := .behind, pieces, text, tag } (writeAttribute entry ++ rest) =
      Scan.run { mode := .behind, pieces, text,
                 tag := { tag with attributes := tag.attributes ++ [entry] } } rest := by
  have begun : Scan.run { mode := .behind, pieces, text, tag } (writeAttribute entry ++ rest) =
      Scan.run { mode := .key, pieces, text, tag }
        (entry.1.toList ++ '=' :: '"' :: (escape entry.2 ++ '"' :: rest)) := by
    rw [writeAttribute, List.cons_append, run_sign rfl]
    simp only [turn, turnBehind, if_true, Option.bind_some, List.append_assoc, List.cons_append,
      List.nil_append]
  have opened : Scan.run { mode := .key, pieces, text, tag }
        (entry.1.toList ++ '=' :: '"' :: (escape entry.2 ++ '"' :: rest)) =
      Scan.run { mode := .value, pieces, text, tag, key := entry.1 }
        (escape entry.2 ++ '"' :: rest) := by
    rw [run_plain_sign rfl plain rfl]
    simp only [turn, Option.bind_some, String.ofList_toList]
    rw [run_sign rfl]
    rfl
  rw [begun, opened, run_plain_sign rfl (isPlain_escape entry.2).2 rfl]
  simp only [turn, if_true, unescape?_escape, Option.map_some, Option.bind_some, endValue]

/-- Attributes, one after another. -/
theorem run_attributes (entries : List (String × String))
    (plain : ∀ entry ∈ entries, Mode.key.IsPlain entry.1.toList) :
    Scan.run { mode := .behind, pieces, text, tag } (entries.flatMap writeAttribute ++ rest) =
      Scan.run { mode := .behind, pieces, text,
                 tag := { tag with attributes := tag.attributes ++ entries } } rest := by
  induction entries generalizing tag with
  | nil => rw [List.flatMap_nil, List.nil_append, List.append_nil]
  | cons entry entries ih =>
    obtain ⟨here, others⟩ := List.forall_mem_cons.1 plain
    rw [List.flatMap_cons, List.append_assoc, run_attribute pieces text tag entry here,
      ih _ others, List.append_assoc, List.singleton_append]

/-- The end of a tag. -/
theorem run_ending (known : tag.sign = none ∨ tag.sign = some '/' ∨ tag.sign = some '?') :
    Scan.run { mode := .behind, pieces, text, tag := { tag with sign := none } }
        (tag.sign.toList ++ '>' :: rest) =
      Scan.run { pieces := pieces ++ [⟨text, tag⟩] } rest := by
  obtain ⟨name, attributes, sign⟩ := tag
  cases sign with
  | none =>
    rw [Option.toList_none, List.nil_append, run_sign rfl]
    rfl
  | some sign =>
    have isSign : sign = '/' ∨ sign = '?' := by simpa using known
    have different : sign ≠ ' ' ∧ sign ≠ '>' := by
      rcases isSign with rfl | rfl <;> decide
    rw [Option.toList_some, List.singleton_append, run_sign rfl]
    simp only [turn, turnBehind, if_neg different.1, if_neg different.2, if_pos isSign,
      Option.bind_some]
    rw [run_sign rfl]
    rfl

/-- **A piece is read as it is.** -/
theorem run_write (piece : Piece) (plain : piece.tag.IsPlain) :
    Scan.run { pieces } (piece.write ++ rest) = Scan.run { pieces := pieces ++ [piece] } rest := by
  obtain ⟨text, tag⟩ := piece
  have written : (Piece.mk text tag).write ++ rest = escape text ++ '<' :: (tag.name.toList ++
      (tag.attributes.flatMap writeAttribute ++ (tag.sign.toList ++ '>' :: rest))) := by
    simp only [Piece.write, Tag.write, List.append_assoc, List.cons_append, List.nil_append]
  -- a sign comes behind the name, be it that of the first attribute or the end of the tag
  have behind : ∃ c more, tag.attributes.flatMap writeAttribute ++
      (tag.sign.toList ++ '>' :: rest) = c :: more ∧ Mode.name.isSign c = true := by
    cases attributes : tag.attributes with
    | nil =>
      rw [plain.sign_behind attributes]
      exact ⟨'>', rest, rfl, rfl⟩
    | cons entry entries => exact ⟨' ', _, rfl, rfl⟩
  obtain ⟨c, more, same, sign⟩ := behind
  rw [written, run_text, same, run_name pieces text plain.name_plain sign, ← same,
    run_attributes pieces text _ tag.attributes plain.keys_plain, List.nil_append]
  exact run_ending pieces text tag plain.sign_known

theorem run_flatMap_write (more : List Piece) (plain : ∀ piece ∈ more, piece.tag.IsPlain) :
    Scan.run { pieces } (more.flatMap Piece.write ++ rest) =
      Scan.run { pieces := pieces ++ more } rest := by
  induction more generalizing pieces with
  | nil => rw [List.flatMap_nil, List.nil_append, List.append_nil]
  | cons piece more ih =>
    obtain ⟨here, others⟩ := List.forall_mem_cons.1 plain
    rw [List.flatMap_cons, List.append_assoc, run_write pieces piece here, ih _ others,
      List.append_assoc, List.singleton_append]

end Scan

/-- **Pieces are read as they were written**, whatever their texts and values are. -/
theorem read?_write {pieces : List Piece} (plain : ∀ piece ∈ pieces, piece.tag.IsPlain)
    (last : String) : read? (String.ofList (write pieces last)) = some (pieces, last) := by
  have scanned : Scan.run {} (write pieces last) = some { pieces, current := escape last } := by
    rw [write, Scan.run_flatMap_write [] pieces plain, List.nil_append,
      ← List.append_nil (escape last), Scan.run_plain (isPlain_escape last).1, List.append_nil]
    rfl
  rw [read?, String.toList_ofList, scanned]
  simp only [if_true, unescape?_escape, Option.map_some]

end EventNet.Markup
