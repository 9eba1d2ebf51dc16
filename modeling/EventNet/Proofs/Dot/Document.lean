import EventNet.Proofs.Dot.Graph
import EventNet.Proofs.Pnml.Document

/-!
# Nets in DOT documents

A net is written as a graph (`toDot_eq`): a place is a node with a record of its name and its
token, a transition is a node with its name in a box, and an arc is an edge, with a style that
tells what it does if it does not consume or produce. What can be read from the graph are the
objects that stand in the net's other documents as well (`objects?_graphOf`), so nothing of the
drawing of the net is lost (`toDot_tells`).
-/

set_option autoImplicit false

namespace EventNet.Dot

open Pnml (Object placeObject transitionObject arcObject objectsOf drawing)

/-! ## Nets as graphs -/

/-- A text in which every character stands for itself. -/
def verbatim (text : String) : Id := .quoted (text.toList.map .plain)

/-- The sign for the token of a place. -/
def tokenSign (factual : Bool) : Char := if factual then '\u25cf' else ' '

/-- The node of a place. -/
def placeLine (entry : Place × PlaceId) : Line :=
  .node (.word (PlaceId.text entry.2))
    [{ key := .word "label"
       value := .quoted (record [pieces entry.1.name, [.plain (tokenSign entry.1.factual)]]) },
      { key := .word "shape", value := .word "Mrecord" }]

/-- The node of a transition. -/
def transitionLine (entry : Transition × TransitionId) : Line :=
  .node (.word (TransitionId.text entry.2))
    [{ key := .word "label", value := .quoted (pieces entry.1.name) },
      { key := .word "shape", value := .word "box" },
      { key := .word "style", value := .word "filled" },
      { key := .word "fillcolor", value := verbatim "#ffe0b2" }]

/-- How an arc looks. -/
def styleOf : ArcKind → List Attribute
  | .consume | .produce => []
  | .catalyst =>
    [{ key := .word "dir", value := .word "both" },
      { key := .word "style", value := .word "dashed" }]
  | .inhibit => [{ key := .word "arrowhead", value := .word "odot" }]

/-- The edge of an arc. -/
def arcLine (arc : Arc) : Line :=
  .edge (.word (Net.arcEnds arc).1) (.word (Net.arcEnds arc).2) (styleOf arc.kind)

/-- What holds for the whole graph. -/
def defaults : List Line :=
  [.setting { key := .word "rankdir", value := .word "LR" },
    .node (.word "node") [{ key := .word "fontname", value := verbatim "Helvetica" }]]

/-- The nodes and edges of a net. -/
def linesOf (net : Net) : List Line :=
  net.places.zipIdx.map placeLine ++ (net.transitions.zipIdx.map transitionLine ++
    net.arcs.map arcLine)

/-- The graph of a net. -/
def graphOf (net : Net) : Graph where
  name := .word "PetriNet"
  lines := defaults ++ linesOf net

/-! ## The text of a net -/

theorem toList_dotPlace (entry : Place × PlaceId) :
    (Net.dotPlace entry.2 entry.1).toList = (placeLine entry).write := by
  obtain ⟨⟨name, factual⟩, id⟩ := entry
  have token : (if factual then "\u25cf" else " " : String).toList = [tokenSign factual] := by
    cases factual <;> decide
  simp [Net.dotPlace, toList_dotLabel, token, placeLine, Line.write, Line.body, writeAttributes,
    Attribute.write, Id.write, record, field, List.intercalate, Piece.write]

theorem toList_dotTransition (entry : Transition × TransitionId) :
    (Net.dotTransition entry.2 entry.1).toList = (transitionLine entry).write := by
  simp [Net.dotTransition, toList_dotLabel, transitionLine, Line.write, Line.body,
    writeAttributes, Attribute.write, Id.write, verbatim, Piece.write]

theorem toList_dotArc (arc : Arc) : (Net.dotArc arc).toList = (arcLine arc).write := by
  obtain ⟨place, transition, kind⟩ := arc
  cases kind <;> simp [Net.dotArc, arcLine, Line.write, Line.body, Net.arcEnds, styleOf,
    writeAttributes, Attribute.write, Id.write]

/-- The lines of a graph in front of those of the net. -/
theorem header_eq :
    "digraph PetriNet \x7b\n    rankdir=LR;\n    node [fontname=\"Helvetica\"];\n".toList =
      (Id.word "digraph").write ++ ' ' :: ((Id.word "PetriNet").write ++ ' ' :: '{' :: '\n' ::
        defaults.flatMap Line.write) := by
  decide +kernel

/-- **The document of a net is its graph.** -/
theorem toDot_eq (net : Net) : net.toDot.toList = (graphOf net).write := by
  have lines {α : Type} {text : α → String} {line : α → Line}
      (written : ∀ item, (text item).toList = (line item).write) (items : List α) :
      (String.join (items.map text)).toList = (items.map line).flatMap Line.write := by
    rw [String.toList_join, List.flatMap_map, List.flatMap_map]
    exact List.flatMap_congr fun item _ => written item
  unfold Net.toDot
  simp only [String.toList_append, header_eq, lines toList_dotPlace, lines toList_dotTransition,
    lines toList_dotArc, graphOf, linesOf, Graph.write, List.flatMap_append, List.append_assoc,
    List.cons_append]
  rfl

/-! ## The objects of a graph -/

/-- The value of an attribute. -/
def value? (key : String) (attributes : List Attribute) : Option Id :=
  (attributes.find? fun entry => entry.key = .word key).map Attribute.value

/-- The mark of a place, by the sign for its token. -/
def marking? (token : List Piece) : Option String :=
  if token = [.plain (tokenSign true)] then some "1"
  else if token = [.plain (tokenSign false)] then some "0"
  else none

/-- The place or the transition that a node stands for. -/
def nodeObject? : Line → Option Object
  | .node (.word id) attributes =>
    match value? "shape" attributes, value? "label" attributes with
    | some (.word "Mrecord"), some (.quoted label) =>
      match record? label with
      | some [name, token] => (marking? token).map fun marking =>
          { sort := "place"
            attributes := [("id", id)]
            labels := [("name", textOf name), ("initialMarking", marking)] }
      | _ => none
    | some (.word "box"), some (.quoted label) =>
      some { sort := "transition", attributes := [("id", id)], labels := [("name", textOf label)] }
    | _, _ => none
  | _ => none

/-- The labels of the arcs that look like this. -/
def labels? (style : List Attribute) : Option (List (String × String)) :=
  ([.consume, .catalyst, .inhibit].find? fun kind => styleOf kind = style).map Pnml.arcLabels

/-- The arc that an edge stands for. Arcs are numbered, for edges have no names. -/
def edgeObject? : Line × ArcId → Option Object
  | (.edge (.word source) (.word target) style, number) =>
    (labels? style).map fun labels =>
      { sort := "arc"
        attributes := [("id", ArcId.text number), ("source", source), ("target", target)]
        labels }
  | _ => none

def Line.isNode : Line → Bool
  | node _ _ => true
  | setting _ | edge _ _ _ => false

/-- The objects that lines stand for. -/
def objectsIn? (lines : List Line) : Option (List Object) := do
  let nodes ← (lines.filter Line.isNode).mapM nodeObject?
  let edges ← (lines.filter fun line => !line.isNode).zipIdx.mapM edgeObject?
  return nodes ++ edges

/-- The objects that a graph shows, behind what holds for the whole graph. -/
def objects? (graph : Graph) : Option (List Object) :=
  match graph.lines with
  | .setting _ :: .node (.word "node") _ :: lines => objectsIn? lines
  | _ => none

theorem nodeObject?_placeLine (entry : Place × PlaceId) :
    nodeObject? (placeLine entry) = some (placeObject entry) := by
  obtain ⟨⟨name, factual⟩, id⟩ := entry
  have noBar : ∀ text ∈ [pieces name, [.plain (tokenSign factual)]], .plain '|' ∉ text := by
    refine List.forall_mem_cons.2 ⟨fun bar => ?_, List.forall_mem_singleton.2 ?_⟩
    · exact absurd (plain_mem_pieces bar).2.2.2 (by decide)
    · cases factual <;> decide
  have label := record?_record (List.cons_ne_nil _ _) noBar
  have marking : marking? [.plain (tokenSign factual)] = some (if factual then "1" else "0") := by
    cases factual <;> decide
  simp only [nodeObject?, placeLine]
  simp [value?, label, marking, textOf_pieces, placeObject]

theorem nodeObject?_transitionLine (entry : Transition × TransitionId) :
    nodeObject? (transitionLine entry) = some (transitionObject entry) := by
  simp [nodeObject?, transitionLine, value?, textOf_pieces, transitionObject]

theorem edgeObject?_arcLine (entry : Arc × ArcId) :
    edgeObject? (arcLine entry.1, entry.2) = some (arcObject entry) := by
  obtain ⟨⟨place, transition, kind⟩, number⟩ := entry
  cases kind <;> rfl

/-- **The graph of a net shows the objects of its other documents.** -/
theorem objects?_graphOf (net : Net) : objects? (graphOf net) = some (objectsOf net) := by
  have nodes : (linesOf net).filter Line.isNode =
      net.places.zipIdx.map placeLine ++ net.transitions.zipIdx.map transitionLine := by
    simp [linesOf, List.filter_map, Function.comp_def, placeLine, transitionLine, arcLine,
      Line.isNode]
  have edges : ((linesOf net).filter fun line => !line.isNode) = net.arcs.map arcLine := by
    simp [linesOf, List.filter_map, Function.comp_def, placeLine, transitionLine, arcLine,
      Line.isNode]
  have places : (net.places.zipIdx.map placeLine).mapM nodeObject? =
      some (net.places.zipIdx.map placeObject) :=
    Guarded.mapM_map_eq_some fun entry _ => nodeObject?_placeLine entry
  have transitions : (net.transitions.zipIdx.map transitionLine).mapM nodeObject? =
      some (net.transitions.zipIdx.map transitionObject) :=
    Guarded.mapM_map_eq_some fun entry _ => nodeObject?_transitionLine entry
  have arcs : (net.arcs.map arcLine).zipIdx.mapM edgeObject? =
      some (net.arcs.zipIdx.map arcObject) := by
    rw [List.zipIdx_map]
    exact Guarded.mapM_map_eq_some fun entry _ => edgeObject?_arcLine entry
  -- what is set for the whole graph is no object
  show objectsIn? (linesOf net) = some (objectsOf net)
  rw [objectsIn?, nodes, edges, List.mapM_append, places, transitions, arcs]
  rfl

/-! ## Reading nets back -/

/-- Reads a document as a drawing. -/
def read? (document : String) : Option Pnml.Drawing :=
  ((Graph.read? document.toList).bind objects?).bind Pnml.Drawing.ofObjects?

/-- Identifiers are words. -/
theorem isPlain_identifier {letter : String} (plain : (Id.word letter).IsPlain) (number : Nat) :
    (Id.word (letter ++ toString number)).IsPlain := by
  obtain ⟨nonempty, inWord⟩ := plain
  rw [Id.IsPlain, String.toList_append]
  refine ⟨List.append_ne_nil_of_left_ne_nil nonempty _, List.forall_mem_append.2 ⟨inWord, ?_⟩⟩
  intro c listed
  rw [Nat.toString_eq_repr, Nat.toList_repr] at listed
  have digit := Nat.isDigit_of_mem_toDigits (by decide) (by decide) listed
  simp [isWordChar, Char.isAlphanum, digit]

theorem isPlain_place (id : PlaceId) : (Id.word (PlaceId.text id)).IsPlain :=
  isPlain_identifier (by decide) (id + 1)

theorem isPlain_transition (id : TransitionId) : (Id.word (TransitionId.text id)).IsPlain :=
  isPlain_identifier (by decide) (id + 1)

theorem isPlain_placeLine (entry : Place × PlaceId) : (placeLine entry).IsPlain := by
  obtain ⟨⟨name, factual⟩, id⟩ := entry
  have sign : (Piece.plain (tokenSign factual)).IsInside := by
    cases factual <;> decide
  have label : (Id.quoted (record [pieces name, [.plain (tokenSign factual)]])).IsPlain :=
    isInside_of_mem_record (List.forall_mem_cons.2 ⟨fun _ => isInside_of_mem_pieces,
      List.forall_mem_singleton.2 (List.forall_mem_singleton.2 sign)⟩)
  have key : (Id.word "label").IsPlain := by decide
  exact ⟨isPlain_place id, List.forall_mem_cons.2
    ⟨⟨key, label⟩, List.forall_mem_singleton.2 (by decide)⟩⟩

theorem isPlain_transitionLine (entry : Transition × TransitionId) :
    (transitionLine entry).IsPlain := by
  have label : (Id.quoted (pieces entry.1.name)).IsPlain := fun _ => isInside_of_mem_pieces
  have key : (Id.word "label").IsPlain := by decide
  have constant : ∀ entry ∈ [⟨.word "shape", .word "box"⟩, ⟨.word "style", .word "filled"⟩,
      ⟨.word "fillcolor", verbatim "#ffe0b2"⟩], Attribute.IsPlain entry := by decide
  exact ⟨isPlain_transition entry.2, List.forall_mem_cons.2 ⟨⟨key, label⟩, constant⟩⟩

theorem isPlain_arcLine (arc : Arc) : (arcLine arc).IsPlain := by
  obtain ⟨place, transition, kind⟩ := arc
  have style : ∀ entry ∈ styleOf kind, entry.IsPlain := by
    cases kind <;> decide
  refine ⟨?_, style⟩
  cases kind with
  | produce => exact ⟨isPlain_transition transition, isPlain_place place⟩
  | consume | catalyst | inhibit => exact ⟨isPlain_place place, isPlain_transition transition⟩

theorem isPlain_graphOf (net : Net) : (graphOf net).IsPlain := by
  have name : (Id.word "PetriNet").IsPlain := by decide
  have constant : ∀ line ∈ defaults, line.IsPlain := by decide
  refine ⟨name, List.forall_mem_append.2 ⟨constant, List.forall_mem_append.2 ⟨?_,
    List.forall_mem_append.2 ⟨?_, ?_⟩⟩⟩⟩ <;> rw [List.forall_mem_map]
  · exact fun entry _ => isPlain_placeLine entry
  · exact fun entry _ => isPlain_transitionLine entry
  · exact fun arc _ => isPlain_arcLine arc

/-- The lines of the transitions take nothing from them but their names. -/
theorem map_transitionLine (net : Net) :
    net.transitions.zipIdx.map transitionLine =
      (net.transitions.map Transition.name).zipIdx.map fun entry =>
        transitionLine ({ name := entry.1 }, entry.2) := by
  rw [List.zipIdx_map, List.map_map]
  rfl

/-- **A document loses nothing of the net.** A label is written in pieces from which it can be
told. No quotation mark, no backslash, no end of a line and no mark that structures a record
stands by itself among them, and they end where the label does. The places with their tokens, the
names of the transitions and the arcs with their kinds can be read back from a document, so that
only nets that agree in these have the same document. -/
theorem toDot_tells :
    (∀ label : String, '\n' ∉ (Net.dotLabel label).toList ∧ ∃ pieces : List Piece,
      textOf pieces = label ∧ (∀ c ∈ '"' :: '\\' :: '\n' :: recordMarks, .plain c ∉ pieces) ∧
        cut (Net.dotLabel label).toList = (pieces, []) ∧
        ∀ behind, cut ((Net.dotLabel label).toList ++ '"' :: behind) = (pieces, '"' :: behind)) ∧
    ∀ net : Net, net.validate = .ok () → read? net.toDot = some (drawing net) ∧
      ∀ other : Net, other.validate = .ok () →
        (other.toDot = net.toDot ↔ other.places = net.places ∧
          other.transitions.map Transition.name = net.transitions.map Transition.name ∧
          other.arcs = net.arcs) := by
  have readBack (net : Net) (valid : net.validate = .ok ()) :
      read? net.toDot = some (drawing net) := by
    rw [read?, toDot_eq, Graph.read?_write (isPlain_graphOf net), Option.bind_some,
      objects?_graphOf, Option.bind_some,
      Pnml.ofObjects?_objectsOf (Net.validate_eq_ok_iff.1 valid)]
  refine ⟨fun label => ⟨newline_not_mem_dotLabel label, pieces label, textOf_pieces label, ?_, ?_,
    fun behind => ?_⟩, fun net valid => ⟨readBack net valid, fun other otherValid => ⟨?_, ?_⟩⟩⟩
  · intro c listed plain
    have meaningless := plain_mem_pieces plain
    simp only [List.mem_cons] at listed
    tauto
  · rw [← List.append_nil (Net.dotLabel label).toList, cut_dotLabel_append, cut, List.append_nil]
  · rw [cut_dotLabel_append, cut, List.append_nil]
  · intro same
    have drawings : some (drawing other) = some (drawing net) := by
      rw [← readBack other otherValid, ← readBack net valid, same]
    simpa [drawing] using drawings
  · rintro ⟨places, names, arcs⟩
    refine String.toList_inj.1 ?_
    simp only [toDot_eq, graphOf, linesOf, map_transitionLine, places, names, arcs]

/-- A net whose names look like parts of its document, and which hold escapes and what is
escaped. -/
def misleading : Net where
  places := [{ name := "p | \u25cf \x7d\", shape=box];", factual := true }, { name := "<\\n\n\\" }]
  transitions := [{ name := "\\", arcs := [0, 1] }, { name := "", arcs := [2, 3] }]
  arcs := [⟨0, 0, .consume⟩, ⟨1, 0, .produce⟩, ⟨0, 1, .catalyst⟩, ⟨1, 1, .inhibit⟩]
  placeArcs := [[0, 2], [1, 3]]
  buses := ⟨[("\\", [0]), ("", [1])], by decide⟩

/-- The names of the misleading net come back as they are. If its first place had no token, or if
in the second name the escape were the end of a line, the document would be another one. -/
theorem misleading_toDot_tells :
    let unmarked := { misleading with
      places := [{ name := "p | \u25cf \x7d\", shape=box];" }, { name := "<\\n\n\\" }] }
    let resolved := { misleading with
      places := [{ name := "p | \u25cf \x7d\", shape=box];", factual := true },
        { name := "<\n\n\\" }] }
    read? misleading.toDot = some (drawing misleading) ∧ unmarked.toDot ≠ misleading.toDot ∧
      resolved.toDot ≠ misleading.toDot ∧
      ∃ pieces, textOf pieces = "<\\n\n\\" ∧
        cut "\\<\\\\n\\n\\\\\"".toList = (pieces, ['"']) := by
  have valid : misleading.validate = .ok () := by decide +kernel
  obtain ⟨labels, documents⟩ := toDot_tells
  obtain ⟨readBack, others⟩ := documents misleading valid
  obtain ⟨-, pieces, text, -, -, ends⟩ := labels "<\\n\n\\"
  refine ⟨readBack, fun same => ?_, fun same => ?_, pieces, text, ends []⟩
  · exact absurd ((others _ (by decide +kernel)).1 same).1 (by decide)
  · exact absurd ((others _ (by decide +kernel)).1 same).1 (by decide)

end EventNet.Dot
