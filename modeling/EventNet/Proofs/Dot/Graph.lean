import EventNet.Proofs.Dot.Labels

/-!
# Reading graphs

A reader of graphs in DOT, apart from the nets that are drawn with them. A text is cut into
names, arrows and signs (`tokens?`), where a name is a word or stands in quotation marks. The
tokens of a graph are cut into its lines at the semicolons, and a line sets a value for the whole
graph, or it is a node or an edge with its attributes (`Line`).

Tokens that are written in any layout are read (`Spells.tokens?_eq`), and so a graph is read as
it was written (`Graph.read?_write`), whatever its quoted texts are, for these come to an end
where they were written to.
-/

set_option autoImplicit false

namespace EventNet.Dot

/-! ## Tokens -/

/-- A name or a value. -/
inductive Id where
  | word (text : String)
  /-- A text in quotation marks. -/
  | quoted (pieces : List Piece)
  deriving DecidableEq

inductive Token where
  | id (id : Id)
  | arrow
  | sign (c : Char)
  deriving DecidableEq

def isBlank (c : Char) : Bool := c == ' ' || c == '\n'

def isSign (c : Char) : Bool := ['{', '}', '[', ']', '=', ',', ';'].contains c

def isWordChar (c : Char) : Bool := c.isAlphanum || c == '_'

/-- The tokens of a text. -/
def tokens? (text : List Char) : Option (List Token) :=
  match text with
  | [] => some []
  | c :: rest =>
    if isBlank c then tokens? rest
    else if isSign c then (tokens? rest).map (.sign c :: ·)
    else if isWordChar c then
      let word := String.ofList (c :: rest.takeWhile isWordChar)
      (tokens? (rest.dropWhile isWordChar)).map (.id (.word word) :: ·)
    else if c = '-' ∧ rest.head? = some '>' then (tokens? rest.tail).map (.arrow :: ·)
    else if c = '"' ∧ (cut rest).2.head? = some '"' then
      (tokens? (cut rest).2.tail).map (.id (.quoted (cut rest).1) :: ·)
    else none
  termination_by text.length
  decreasing_by
    · exact Nat.lt_succ_self _
    · exact Nat.lt_succ_self _
    · exact Nat.lt_succ_of_le (List.dropWhile_suffix _).length_le
    · exact Nat.lt_succ_of_le (List.tail_suffix _).length_le
    · exact Nat.lt_succ_of_le (Nat.le_trans (List.tail_suffix _).length_le (length_cut rest))

/-- How a name is written. -/
def Id.write : Id → List Char
  | word text => text.toList
  | quoted pieces => '"' :: (Dot.write pieces ++ ['"'])

/-- A name that is read as it is written. -/
def Id.IsPlain : Id → Prop
  | word text => text.toList ≠ [] ∧ ∀ c ∈ text.toList, isWordChar c = true
  | quoted pieces => ∀ piece ∈ pieces, piece.IsInside

instance : (id : Id) → Decidable id.IsPlain
  | .word text =>
    decidable_of_iff (text.toList ≠ [] ∧ text.toList.all isWordChar = true) (by simp [Id.IsPlain])
  | .quoted _ => inferInstanceAs (Decidable (∀ _ ∈ _, _))

/-- No word goes on in this text. -/
def Stops (text : List Char) : Prop := ∀ c ∈ text.head?, isWordChar c = false

/-- How tokens are written. -/
inductive Spells : List Char → List Token → Prop where
  | nil : Spells [] []
  | blank {c : Char} {text : List Char} {tokens : List Token} :
      isBlank c = true → Spells text tokens → Spells (c :: text) tokens
  | id {id : Id} {text : List Char} {tokens : List Token} :
      id.IsPlain → Stops text → Spells text tokens → Spells (id.write ++ text) (.id id :: tokens)
  | arrow {text : List Char} {tokens : List Token} :
      Spells text tokens → Spells ('-' :: '>' :: text) (.arrow :: tokens)
  | sign {c : Char} {text : List Char} {tokens : List Token} :
      isSign c = true → Spells text tokens → Spells (c :: text) (.sign c :: tokens)

theorem Stops.takeWhile_eq_nil {text : List Char} (stops : Stops text) :
    text.takeWhile isWordChar = [] ∧ text.dropWhile isWordChar = text := by
  cases text with
  | nil => exact ⟨rfl, rfl⟩
  | cons c text =>
    have noWord := stops c rfl
    simp [noWord]

theorem isSign_iff {c : Char} : isSign c = true ↔
    c = '{' ∨ c = '}' ∨ c = '[' ∨ c = ']' ∨ c = '=' ∨ c = ',' ∨ c = ';' := by
  simp [isSign]

/-- The signs are no blanks. -/
theorem not_isBlank_of_isSign {c : Char} (sign : isSign c = true) : isBlank c = false := by
  obtain rfl | rfl | rfl | rfl | rfl | rfl | rfl := isSign_iff.1 sign <;> decide

/-- The characters of words are neither blanks nor signs. -/
theorem kind_of_isWordChar {c : Char} (inWord : isWordChar c = true) :
    isBlank c = false ∧ isSign c = false := by
  constructor <;> refine Bool.eq_false_iff.2 fun kind => ?_
  · obtain rfl | rfl : c = ' ' ∨ c = '\n' := by simpa [isBlank] using kind
    all_goals exact absurd inWord (by decide)
  · obtain rfl | rfl | rfl | rfl | rfl | rfl | rfl := isSign_iff.1 kind <;>
      exact absurd inWord (by decide)

/-- A name is read up to where it ends. -/
theorem tokens?_id {id : Id} {text : List Char} (isPlain : id.IsPlain) (stops : Stops text) :
    tokens? (id.write ++ text) = (tokens? text).map (.id id :: ·) := by
  cases id with
  | word word =>
    obtain ⟨nonempty, inWord⟩ := isPlain
    obtain ⟨none, all⟩ := stops.takeWhile_eq_nil
    obtain ⟨c, rest, spelled⟩ := List.exists_cons_of_ne_nil nonempty
    have same : word = String.ofList (c :: rest) := by rw [← spelled, String.ofList_toList]
    rw [spelled] at inWord
    obtain ⟨first, others⟩ := List.forall_mem_cons.1 inWord
    obtain ⟨noBlank, noSign⟩ := kind_of_isWordChar first
    rw [Id.write, spelled, List.cons_append, tokens?, if_neg (by simp [noBlank]),
      if_neg (by simp [noSign]), if_pos first, List.takeWhile_append_of_pos others,
      List.dropWhile_append_of_pos others, none, all, List.append_nil, same]
  | quoted pieces =>
    have ends : cut (write pieces ++ '"' :: text) = (pieces, '"' :: text) := by
      rw [cut_write_append isPlain, cut, List.append_nil]
    rw [Id.write, List.cons_append, List.append_assoc, List.singleton_append, tokens?]
    simp only [ends]
    rfl

/-- **Tokens are read in whatever layout they are written.** -/
theorem Spells.tokens?_eq {text : List Char} {tokens : List Token} (spells : Spells text tokens) :
    tokens? text = some tokens := by
  induction spells with
  | nil => rw [tokens?]
  | blank blank _ ih => rw [tokens?, if_pos blank, ih]
  | id isPlain stops _ ih => rw [tokens?_id isPlain stops, ih, Option.map_some]
  | @arrow text _ _ ih =>
    have arrow : tokens? ('-' :: '>' :: text) = (tokens? text).map (.arrow :: ·) := by
      rw [tokens?]
      rfl
    rw [arrow, ih, Option.map_some]
  | sign sign _ ih =>
    rw [tokens?, if_neg (by simp [not_isBlank_of_isSign sign]), if_pos sign, ih, Option.map_some]

/-! ## Lines -/

/-- An attribute of a node or an edge. -/
structure Attribute where
  key : Id
  value : Id
  deriving DecidableEq

/-- A line of a graph. -/
inductive Line where
  /-- Sets a value for the whole graph. -/
  | setting (entry : Attribute)
  | node (name : Id) (attributes : List Attribute)
  | edge (source target : Id) (attributes : List Attribute)
  deriving DecidableEq

/-- Reads attributes, of which there is at least one, up to the bracket behind them. -/
def listed? : List Token → Option (List Attribute)
  | [.id key, .sign '=', .id value, .sign ']'] => some [{ key, value }]
  | .id key :: .sign '=' :: .id value :: .sign ',' :: rest =>
    (listed? rest).map ({ key, value } :: ·)
  | _ => none

/-- Reads the attributes of a node or an edge, if it has any. -/
def attributes? : List Token → Option (List Attribute)
  | [] => some []
  | .sign '[' :: rest => listed? rest
  | _ => none

/-- Reads a line without the semicolon. -/
def line? : List Token → Option Line
  | [.id key, .sign '=', .id value] => some (.setting { key, value })
  | .id source :: .arrow :: .id target :: rest => (attributes? rest).map (.edge source target)
  | .id name :: rest => (attributes? rest).map (.node name)
  | _ => none

namespace Attribute

/-- How an attribute is written. -/
def write (entry : Attribute) : List Char := entry.key.write ++ '=' :: entry.value.write

def tokens (entry : Attribute) : List Token := [.id entry.key, .sign '=', .id entry.value]

/-- An attribute that is read as it is written. -/
def IsPlain (entry : Attribute) : Prop := entry.key.IsPlain ∧ entry.value.IsPlain

instance (entry : Attribute) : Decidable entry.IsPlain := inferInstanceAs (Decidable (_ ∧ _))

end Attribute

/-- How attributes are written. -/
def writeAttributes : List Attribute → List Char
  | [] => []
  | first :: others =>
    ' ' :: '[' ::
      (first.write ++ (others.flatMap (fun entry => ',' :: ' ' :: entry.write) ++ [']']))

def attributesTokens : List Attribute → List Token
  | [] => []
  | first :: others =>
    .sign '[' ::
      (first.tokens ++ (others.flatMap (fun entry => .sign ',' :: entry.tokens) ++ [.sign ']']))

namespace Line

/-- How a line is written, apart from the blanks in front of it and the semicolon. -/
def body : Line → List Char
  | setting entry => entry.write
  | node name attributes => name.write ++ writeAttributes attributes
  | edge source target attributes =>
    source.write ++ ' ' :: '-' :: '>' :: ' ' :: (target.write ++ writeAttributes attributes)

/-- How a line is written. -/
def write (line : Line) : List Char := ' ' :: ' ' :: ' ' :: ' ' :: (line.body ++ [';', '\n'])

/-- The tokens of a line without the semicolon. -/
def tokens : Line → List Token
  | setting entry => entry.tokens
  | node name attributes => .id name :: attributesTokens attributes
  | edge source target attributes =>
    .id source :: .arrow :: .id target :: attributesTokens attributes

/-- A line that is read as it is written. -/
def IsPlain : Line → Prop
  | setting entry => entry.IsPlain
  | node name attributes => name.IsPlain ∧ ∀ entry ∈ attributes, entry.IsPlain
  | edge source target attributes =>
    (source.IsPlain ∧ target.IsPlain) ∧ ∀ entry ∈ attributes, entry.IsPlain

instance : (line : Line) → Decidable line.IsPlain
  | setting entry => inferInstanceAs (Decidable entry.IsPlain)
  | node _ _ | edge _ _ _ => inferInstanceAs (Decidable (_ ∧ _))

end Line

section Write

variable {text : List Char} {tokens : List Token}

theorem stops_cons {c : Char} (noWord : isWordChar c = false) (text : List Char) :
    Stops (c :: text) := by
  intro d first
  cases first
  exact noWord

theorem Attribute.IsPlain.spells {entry : Attribute} (isPlain : entry.IsPlain)
    (stops : Stops text) (spells : Spells text tokens) :
    Spells (entry.write ++ text) (entry.tokens ++ tokens) := by
  rw [write, List.append_assoc]
  exact .id isPlain.1 (stops_cons (by decide) _) (.sign (by decide) (.id isPlain.2 stops spells))

/-- Attributes behind commas. -/
theorem spells_entries {entries : List Attribute} (isPlain : ∀ entry ∈ entries, entry.IsPlain)
    (stops : Stops text) (spells : Spells text tokens) :
    Stops (entries.flatMap (fun entry => ',' :: ' ' :: entry.write) ++ text) ∧
      Spells (entries.flatMap (fun entry => ',' :: ' ' :: entry.write) ++ text)
        (entries.flatMap (fun entry => .sign ',' :: entry.tokens) ++ tokens) := by
  induction entries with
  | nil => exact ⟨stops, spells⟩
  | cons entry entries ih =>
    obtain ⟨here, others⟩ := List.forall_mem_cons.1 isPlain
    obtain ⟨stopsThere, spellsThere⟩ := ih others
    rw [List.flatMap_cons, List.flatMap_cons, List.append_assoc, List.append_assoc]
    exact ⟨stops_cons (by decide) _,
      .sign (by decide) (.blank (by decide) (here.spells stopsThere spellsThere))⟩

theorem spells_attributes {attributes : List Attribute}
    (isPlain : ∀ entry ∈ attributes, entry.IsPlain) (stops : Stops text)
    (spells : Spells text tokens) :
    Stops (writeAttributes attributes ++ text) ∧
      Spells (writeAttributes attributes ++ text) (attributesTokens attributes ++ tokens) := by
  cases attributes with
  | nil => exact ⟨stops, spells⟩
  | cons first others =>
    obtain ⟨here, others⟩ := List.forall_mem_cons.1 isPlain
    have closed : Spells (']' :: text) (.sign ']' :: tokens) := .sign (by decide) spells
    obtain ⟨stopsThere, spellsThere⟩ := spells_entries others (stops_cons (by decide) _) closed
    simp only [writeAttributes, attributesTokens, List.cons_append, List.append_assoc,
      List.nil_append]
    exact ⟨stops_cons (by decide) _, .blank (by decide) (.sign (by decide)
      (here.spells stopsThere spellsThere))⟩

/-- **A line is written as its tokens.** -/
theorem Line.IsPlain.spells {line : Line} (isPlain : line.IsPlain) (spells : Spells text tokens) :
    Spells (line.write ++ text) (line.tokens ++ .sign ';' :: tokens) := by
  have ended : Spells (';' :: '\n' :: text) (.sign ';' :: tokens) :=
    .sign (by decide) (.blank (by decide) spells)
  have stops : Stops (';' :: '\n' :: text) := stops_cons (by decide) _
  simp only [write, List.cons_append, List.append_assoc, List.nil_append]
  refine .blank (by decide) (.blank (by decide) (.blank (by decide) (.blank (by decide) ?_)))
  cases line with
  | setting entry => exact Attribute.IsPlain.spells isPlain stops ended
  | node name attributes =>
    obtain ⟨stopsThere, spellsThere⟩ := spells_attributes isPlain.2 stops ended
    rw [body, List.append_assoc]
    exact .id isPlain.1 stopsThere spellsThere
  | edge source target attributes =>
    obtain ⟨stopsThere, spellsThere⟩ := spells_attributes isPlain.2 stops ended
    simp only [body, List.append_assoc, List.cons_append]
    exact .id isPlain.1.1 (stops_cons (by decide) _) (.blank (by decide) (.arrow
      (.blank (by decide) (.id isPlain.1.2 stopsThere spellsThere))))

theorem spells_lines {lines : List Line} (isPlain : ∀ line ∈ lines, line.IsPlain)
    (spells : Spells text tokens) :
    Spells (lines.flatMap Line.write ++ text)
      (lines.flatMap (fun line => line.tokens ++ [.sign ';']) ++ tokens) := by
  induction lines with
  | nil => exact spells
  | cons line lines ih =>
    obtain ⟨here, others⟩ := List.forall_mem_cons.1 isPlain
    rw [List.flatMap_cons, List.flatMap_cons, List.append_assoc, List.append_assoc]
    simpa only [List.append_assoc, List.singleton_append] using here.spells (ih others)

end Write

/-! ## Reading lines -/

theorem listed?_tokens (first : Attribute) (others : List Attribute) :
    listed? (first.tokens ++
      (others.flatMap (fun entry => .sign ',' :: entry.tokens) ++ [.sign ']'])) =
        some (first :: others) := by
  induction others generalizing first with
  | nil => rfl
  | cons second others ih =>
    have step (rest : List Token) :
        listed? (first.tokens ++ .sign ',' :: rest) = (listed? rest).map (first :: ·) := rfl
    rw [List.flatMap_cons, List.cons_append, List.cons_append, step, List.append_assoc, ih,
      Option.map_some]

theorem attributes?_tokens (attributes : List Attribute) :
    attributes? (attributesTokens attributes) = some attributes := by
  cases attributes with
  | nil => rfl
  | cons first others => exact listed?_tokens first others

theorem line?_tokens (line : Line) : line? line.tokens = some line := by
  cases line with
  | setting entry => rfl
  | node name attributes =>
    have step : line? (Line.node name attributes).tokens =
        (attributes? (attributesTokens attributes)).map (Line.node name) := by
      cases attributes <;> rfl
    rw [step, attributes?_tokens, Option.map_some]
  | edge source target attributes =>
    have step : line? (Line.edge source target attributes).tokens =
        (attributes? (attributesTokens attributes)).map (Line.edge source target) := rfl
    rw [step, attributes?_tokens, Option.map_some]

/-- No line goes on behind a semicolon. -/
theorem semicolon_not_mem_tokens (line : Line) : .sign ';' ∉ line.tokens := by
  have inEntry (entry : Attribute) : .sign ';' ∉ entry.tokens := by simp [Attribute.tokens]
  have inAttributes (attributes : List Attribute) : .sign ';' ∉ attributesTokens attributes := by
    cases attributes <;> simp [attributesTokens, inEntry]
  cases line with
  | setting entry => exact inEntry entry
  | node name attributes => simp [Line.tokens, inAttributes]
  | edge source target attributes => simp [Line.tokens, inAttributes]

/-- The tokens of lines are cut where the lines end. -/
theorem splitOn_lines (lines : List Line) :
    List.splitOn (.sign ';') (lines.flatMap (fun line => line.tokens ++ [.sign ';']) ++
      [.sign '}']) = lines.map Line.tokens ++ [[.sign '}']] := by
  induction lines with
  | nil => rfl
  | cons line lines ih =>
    have inLine : ∀ token ∈ line.tokens, (token == Token.sign ';') = false := by
      intro token listed
      refine beq_eq_false_iff_ne.2 ?_
      rintro rfl
      exact semicolon_not_mem_tokens line listed
    rw [List.splitOn] at ih ⊢
    rw [List.flatMap_cons, List.append_assoc, List.append_assoc, List.singleton_append,
      List.splitOnP_append_cons, ih, List.splitOnP_eq_singleton inLine]
    · rfl
    · exact beq_self_eq_true _

/-! ## Graphs -/

/-- A graph with its lines. -/
structure Graph where
  name : Id
  lines : List Line
  deriving DecidableEq

namespace Graph

/-- How a graph is written. -/
def write (graph : Graph) : List Char :=
  (Id.word "digraph").write ++ ' ' :: (graph.name.write ++ ' ' :: '{' :: '\n' ::
    (graph.lines.flatMap Line.write ++ ['}', '\n']))

def tokens (graph : Graph) : List Token :=
  .id (.word "digraph") :: .id graph.name :: .sign '{' ::
    (graph.lines.flatMap (fun line => line.tokens ++ [.sign ';']) ++ [.sign '}'])

/-- Reads a graph. Behind its name there are lines that end in semicolons. -/
def read? (text : List Char) : Option Graph :=
  match tokens? text with
  | some (.id (.word "digraph") :: .id name :: .sign '{' :: rest) =>
    let lines := rest.splitOn (.sign ';')
    if lines.getLast? = some [.sign '}'] then
      (lines.dropLast.mapM line?).map fun lines => { name, lines }
    else none
  | _ => none

/-- A graph that is read as it is written. -/
structure IsPlain (graph : Graph) : Prop where
  name : graph.name.IsPlain
  lines : ∀ line ∈ graph.lines, line.IsPlain

theorem IsPlain.spells {graph : Graph} (isPlain : graph.IsPlain) :
    Spells graph.write graph.tokens := by
  have closed : Spells ['}', '\n'] [.sign '}'] := .sign (by decide) (.blank (by decide) .nil)
  have plain : (Id.word "digraph").IsPlain := by decide
  exact .id plain (stops_cons (by decide) _) (.blank (by decide) (.id isPlain.name
    (stops_cons (by decide) _) (.blank (by decide) (.sign (by decide) (.blank (by decide)
      (spells_lines isPlain.lines closed))))))

/-- **A graph is read as it was written.** -/
theorem read?_write {graph : Graph} (isPlain : graph.IsPlain) :
    read? graph.write = some graph := by
  have lines : (graph.lines.map Line.tokens).mapM line? = some graph.lines := by
    rw [Guarded.mapM_map_eq_some fun line _ => line?_tokens line, List.map_id']
  simp only [read?, isPlain.spells.tokens?_eq, tokens, splitOn_lines, List.getLast?_concat,
    List.dropLast_concat, lines]
  rfl

end Graph

end EventNet.Dot
