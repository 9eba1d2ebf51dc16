import EventNet.Proofs.Guarded.Net
import EventNet.Proofs.Pnml.Objects

/-!
# Nets in PNML documents

A net is written as its objects (`toPnml_eq`): each place, transition and arc is one, with its
identifier. What is read back from them is a drawing of the net (`Drawing.ofObjects?`): places and
transitions are the objects of these sorts, and an arc joins the two that it gives as its source
and its target. An arc from a transition to a place produces; of those in the other direction a
label tells which ones do not consume.

Nothing of the drawing is lost in the document (`toPnml_tells`). Identifiers are told apart by
their letters and numbers, and since the ends of all arcs exist, they are found again.
-/

set_option autoImplicit false

namespace EventNet.Pnml

open Markup (Piece Tag)

/-! ## Nets as objects -/

/-- A place in a document. -/
def placeObject (entry : Place × PlaceId) : Object where
  sort := "place"
  attributes := [("id", PlaceId.text entry.2)]
  labels := [("name", entry.1.name), ("initialMarking", if entry.1.factual then "1" else "0")]

/-- A transition in a document. -/
def transitionObject (entry : Transition × TransitionId) : Object where
  sort := "transition"
  attributes := [("id", TransitionId.text entry.2)]
  labels := [("name", entry.1.name)]

/-- The labels of an arc. -/
def arcLabels (kind : ArcKind) : List (String × String) :=
  match kind with
  | .catalyst | .inhibit => [("type", kind.word)]
  | .consume | .produce => []

/-- An arc in a document. -/
def arcObject (entry : Arc × ArcId) : Object where
  sort := "arc"
  attributes := [("id", ArcId.text entry.2), ("source", (Net.arcEnds entry.1).1),
    ("target", (Net.arcEnds entry.1).2)]
  labels := arcLabels entry.1.kind

/-- The objects of a net. -/
def objectsOf (net : Net) : List Object :=
  net.places.zipIdx.map placeObject ++ net.transitions.zipIdx.map transitionObject ++
    net.arcs.zipIdx.map arcObject

/-! ## The text of a net -/

theorem escape_append (first second : String) :
    Markup.escape (first ++ second) = Markup.escape first ++ Markup.escape second := by
  rw [Markup.escape, String.toList_append, List.flatMap_append]
  rfl

/-- Digits need no escapes. -/
theorem escape_toString (number : Nat) :
    Markup.escape (toString number) = (toString number).toList := by
  have plain : ∀ c ∈ (toString number).toList, Net.xmlEscaped c = [c] := by
    intro c listed
    rw [Nat.toString_eq_repr, Nat.toList_repr] at listed
    have digit := Nat.isDigit_of_mem_toDigits (by decide) (by decide) listed
    fun_cases Net.xmlEscaped c with
    | case6 => rfl
    | _ => exact absurd digit (by decide)
  rw [Markup.escape, List.flatMap_congr plain, List.flatMap_singleton']

/-- Identifiers need no escapes. -/
theorem escape_identifier {letter : String} (plain : Markup.escape letter = letter.toList)
    (number : Nat) :
    Markup.escape (letter ++ toString number) = (letter ++ toString number).toList := by
  rw [escape_append, plain, escape_toString, String.toList_append]

theorem write_closing (name : String) :
    (closing name).write = '<' :: '/' :: (name.toList ++ ['>']) := by
  have slash : (closing name).name.toList = '/' :: name.toList := String.toList_append
  simp only [Tag.write, slash]
  simp [closing]

/-- A label stands on a line of its own. -/
theorem write_labelPieces (name text : String) :
    (labelPieces (name, text)).flatMap Piece.write =
      "\n        <".toList ++ (name.toList ++ ("><text>".toList ++ (Markup.escape text ++
        ("</text></".toList ++ (name.toList ++ ['>']))))) := by
  have layout : Markup.escape "\n        " = "\n        ".toList := by decide
  have none : Markup.escape "" = [] := rfl
  simp only [labelPieces, List.flatMap_cons, List.flatMap_nil, Piece.write, write_closing, layout,
    none]
  simp [Tag.write]

/-- An object with labels takes up several lines. -/
theorem write_pieces {object : Object} (labelled : object.labels ≠ []) :
    object.pieces.flatMap Piece.write =
      "\n      <".toList ++ (object.sort.toList ++
        (object.attributes.flatMap Markup.writeAttribute ++ ('>' ::
          (object.labels.flatMap (fun label => (labelPieces label).flatMap Piece.write) ++
            ("\n      </".toList ++ (object.sort.toList ++ ['>'])))))) := by
  have layout : Markup.escape "\n      " = "\n      ".toList := by decide
  simp only [Object.pieces, if_neg labelled, List.flatMap_cons, List.flatMap_nil,
    List.flatMap_append, List.flatMap_assoc, Piece.write, write_closing, layout]
  simp [Tag.write]

/-- An object without labels takes up one line. -/
theorem write_pieces_unlabelled {object : Object} (unlabelled : object.labels = []) :
    object.pieces.flatMap Piece.write =
      "\n      <".toList ++ (object.sort.toList ++
        (object.attributes.flatMap Markup.writeAttribute ++ ['/', '>'])) := by
  have layout : Markup.escape "\n      " = "\n      ".toList := by decide
  simp only [Object.pieces, if_pos unlabelled, List.flatMap_cons, List.flatMap_nil, Piece.write,
    layout]
  simp [Tag.write]

section Blocks

theorem toList_xmlText (text : String) : (Net.xmlText text).toList = Markup.escape text :=
  String.toList_ofList

theorem escape_place (id : PlaceId) : Markup.escape (PlaceId.text id) = (PlaceId.text id).toList :=
  escape_identifier (by decide) (id + 1)

theorem escape_transition (id : TransitionId) :
    Markup.escape (TransitionId.text id) = (TransitionId.text id).toList :=
  escape_identifier (by decide) (id + 1)

theorem escape_arc (id : ArcId) : Markup.escape (ArcId.text id) = (ArcId.text id).toList :=
  escape_identifier (by decide) (id + 1)

/-- The lines of an object, with the end of a line moved from behind them to their front. -/
def IsBlock (block : String) (object : Object) : Prop :=
  '\n' :: block.toList = object.pieces.flatMap Piece.write ++ ['\n']

theorem isBlock_place (entry : Place × PlaceId) :
    IsBlock (Net.pnmlPlace entry.2 entry.1) (placeObject entry) := by
  obtain ⟨place, id⟩ := entry
  have marking : Markup.escape (if place.factual then "1" else "0") =
      (if place.factual then "1" else "0" : String).toList := by
    cases place.factual <;> decide
  unfold IsBlock Net.pnmlPlace Net.pnmlName
  rw [write_pieces (by simp [placeObject])]
  simp only [placeObject, List.flatMap_cons, List.flatMap_nil, write_labelPieces, marking,
    Markup.writeAttribute, escape_place, String.toList_append, toList_xmlText]
  simp only [String.reduceToList, List.append_assoc, List.cons_append, List.nil_append]

theorem isBlock_transition (entry : Transition × TransitionId) :
    IsBlock (Net.pnmlTransition entry.2 entry.1) (transitionObject entry) := by
  unfold IsBlock Net.pnmlTransition Net.pnmlName
  rw [write_pieces (by simp [transitionObject])]
  simp only [transitionObject, List.flatMap_cons, List.flatMap_nil, write_labelPieces,
    Markup.writeAttribute, escape_transition, String.toList_append, toList_xmlText]
  simp only [String.reduceToList, List.append_assoc, List.cons_append, List.nil_append]

theorem isBlock_arc (entry : Arc × ArcId) :
    IsBlock (Net.pnmlArc entry.2 entry.1) (arcObject entry) := by
  obtain ⟨⟨place, transition, kind⟩, id⟩ := entry
  have word : Markup.escape kind.word = kind.word.toList := by
    cases kind <;> decide
  cases kind with
  | consume | produce =>
    unfold IsBlock Net.pnmlArc
    rw [write_pieces_unlabelled rfl]
    simp only [arcObject, Net.arcEnds, List.flatMap_cons, List.flatMap_nil, Markup.writeAttribute,
      escape_arc, escape_place, escape_transition, String.toList_append]
    simp only [String.reduceToList, List.append_assoc, List.cons_append, List.nil_append]
  | catalyst | inhibit =>
    unfold IsBlock Net.pnmlArc
    rw [write_pieces (by simp [arcObject, arcLabels])]
    simp only [arcObject, arcLabels, Net.arcEnds, List.flatMap_cons, List.flatMap_nil,
      write_labelPieces, word, Markup.writeAttribute, escape_arc, escape_place, escape_transition,
      String.toList_append]
    simp only [String.reduceToList, List.append_assoc, List.cons_append, List.nil_append]

/-- Blocks stand one behind the other. -/
theorem join_blocks {α : Type} {block : α → String} {object : α → Object}
    (isBlock : ∀ item, IsBlock (block item) (object item)) (items : List α) (rest : List Char) :
    '\n' :: ((String.join (items.map block)).toList ++ rest) =
      ((items.map object).flatMap Object.pieces).flatMap Piece.write ++ '\n' :: rest := by
  induction items with
  | nil => rfl
  | cons item items ih =>
    have here : '\n' :: (block item).toList =
      (object item).pieces.flatMap Piece.write ++ ['\n'] := isBlock item
    rw [List.map_cons, List.map_cons, String.join_cons, String.toList_append, List.flatMap_cons,
      List.flatMap_append, List.append_assoc, List.append_assoc, ← ih, ← List.cons_append, here,
      List.append_assoc, List.singleton_append]

end Blocks

theorem header_eq (rest : List Char) :
    "<?xml version=\"1.0\" encoding=\"utf-8\"?>\n<pnml>\n  <net id=\"net1\" type=\"".toList ++
      (Net.pnmlType.toList ++ ("\">\n    <page id=\"page1\">\n".toList ++ rest)) =
        header.flatMap Piece.write ++ '\n' :: rest := by
  have lines :
      "<?xml version=\"1.0\" encoding=\"utf-8\"?>\n<pnml>\n  <net id=\"net1\" type=\"".toList ++
        (Net.pnmlType.toList ++ "\">\n    <page id=\"page1\">\n".toList) =
          header.flatMap Piece.write ++ ['\n'] := by decide +kernel
  rewrite [← List.append_assoc, ← List.append_assoc, List.append_assoc _ Net.pnmlType.toList, lines,
    List.append_assoc, List.singleton_append]
  exact Eq.refl _

theorem footer_eq :
    '\n' :: "    </page>\n  </net>\n</pnml>\n".toList =
      footer.flatMap Piece.write ++ Markup.escape "\n" := by decide +kernel

/-- **The document of a net is that of its objects.** -/
theorem toPnml_eq (net : Net) : net.toPnml = document (objectsOf net) := by
  refine String.toList_inj.1 ?_
  unfold Net.toPnml document
  simp only [String.toList_append, String.toList_ofList, List.append_assoc]
  rewrite [header_eq, join_blocks isBlock_place, join_blocks isBlock_transition,
    join_blocks isBlock_arc, footer_eq]
  simp only [Markup.write, objectsOf, List.flatMap_append, List.append_assoc]

/-! ## Drawings -/

/-- What a document shows of a net. -/
structure Drawing where
  places : List Place
  /-- The names of the transitions. -/
  transitions : List String
  arcs : List Arc
  deriving DecidableEq

/-- The kind of an arc to a transition, by the text of its label if it has one. -/
def kindTo? : Option String → Option ArcKind
  | none => some .consume
  | some word => [ArcKind.catalyst, ArcKind.inhibit].find? fun kind => kind.word == word

namespace Object

/-- What the tag of an object gives for a key. -/
def attribute? (object : Object) (key : String) : Option String := object.attributes.lookup key

/-- The text of a label of an object. -/
def label? (object : Object) (name : String) : Option String := object.labels.lookup name

/-- The place that an object stands for. -/
def place? (object : Object) : Option Place := do
  let name ← object.label? "name"
  let marking ← object.label? "initialMarking"
  if marking = "1" then some { name, factual := true }
  else if marking = "0" then some { name }
  else none

/-- The arc that an object stands for, between nodes with these identifiers. -/
def arc? (places transitions : List String) (object : Object) : Option Arc := do
  let source ← object.attribute? "source"
  let target ← object.attribute? "target"
  match places.idxOf? source, transitions.idxOf? target with
  | some place, some transition =>
    (kindTo? (object.label? "type")).map fun kind => { place, transition, kind }
  | _, _ =>
    match transitions.idxOf? source, places.idxOf? target, object.label? "type" with
    | some transition, some place, none => some { place, transition, kind := .produce }
    | _, _, _ => none

end Object

/-- The drawing that objects make up. -/
def Drawing.ofObjects? (objects : List Object) : Option Drawing := do
  let places := objects.filter fun object => object.sort == "place"
  let transitions := objects.filter fun object => object.sort == "transition"
  let placeIds ← places.mapM fun object => object.attribute? "id"
  let transitionIds ← transitions.mapM fun object => object.attribute? "id"
  let arcs := objects.filter fun object => object.sort == "arc"
  return {
    places := ← places.mapM Object.place?
    transitions := ← transitions.mapM fun object => object.label? "name"
    arcs := ← arcs.mapM (Object.arc? placeIds transitionIds) }

/-- Reads a document as a drawing. -/
def read? (document : String) : Option Drawing := (objects? document).bind Drawing.ofObjects?

/-- The drawing of a net. -/
def drawing (net : Net) : Drawing where
  places := net.places
  transitions := net.transitions.map Transition.name
  arcs := net.arcs

/-! ## Identifiers -/

theorem number_eq_of_identifier_eq {letter : String} {first second : Nat}
    (same : letter ++ toString (first + 1) = letter ++ toString (second + 1)) :
    first = second := by
  have digits := congrArg String.toList same
  rw [String.toList_append, String.toList_append, Nat.toString_eq_repr, Nat.toString_eq_repr,
    Nat.toList_repr, Nat.toList_repr, List.append_cancel_left_eq] at digits
  have values := congrArg (fun digits => Nat.ofDigitChars 10 digits 0) digits
  simp only [Nat.ofDigitChars_ten_toDigits] at values
  exact Nat.succ.inj values

/-- Places and transitions have different identifiers. -/
theorem place_text_ne (place : PlaceId) (transition : TransitionId) :
    PlaceId.text place ≠ TransitionId.text transition := by
  intro same
  have heads := congrArg (fun text => text.toList.head?) same
  simp only [PlaceId.text, TransitionId.text, String.toList_append] at heads
  exact absurd heads (by simp)

section Identifiers

variable {α : Type} {items : List α} {text : Nat → String}

/-- An identifier leads to its number. -/
theorem idxOf?_identifier (distinct : ∀ first second, text first = text second → first = second)
    {number : Nat} (inside : number < items.length) :
    (items.zipIdx.map fun entry => text entry.2).idxOf? (text number) = some number := by
  refine List.idxOf?_eq_some_iff.2 ⟨by simpa using inside, by simp, ?_⟩
  intro other below same
  have equal : text other = text number := by simpa using same
  exact absurd (distinct other number equal) (Nat.ne_of_lt below)

theorem idxOf?_foreign {identifier : String} (foreign : ∀ number, text number ≠ identifier) :
    (items.zipIdx.map fun entry => text entry.2).idxOf? identifier = none := by
  rw [List.idxOf?_eq_none_iff, List.mem_map]
  rintro ⟨entry, -, same⟩
  exact foreign entry.2 same

end Identifiers

/-! ## Reading nets back -/

section Nets

variable (net : Net)

theorem isPlain_of_mem_objectsOf {object : Object} (listed : object ∈ objectsOf net) :
    object.IsPlain := by
  have isPlace : IsElement "place" := by decide
  have isTransition : IsElement "transition" := by decide
  have isArc : IsElement "arc" := by decide
  have isName : IsElement "name" := by decide
  have isMarking : IsElement "initialMarking" := by decide
  have isType : IsElement "type" := by decide
  have id : Markup.Mode.key.IsPlain "id".toList := by decide
  have source : Markup.Mode.key.IsPlain "source".toList := by decide
  have target : Markup.Mode.key.IsPlain "target".toList := by decide
  simp only [objectsOf, List.mem_append, List.mem_map] at listed
  obtain (⟨entry, -, rfl⟩ | ⟨entry, -, rfl⟩) | ⟨entry, -, rfl⟩ := listed
  · refine ⟨isPlace, ?_, List.cons_ne_nil _ _, ?_⟩
    · exact List.forall_mem_singleton.2 id
    · exact List.forall_mem_cons.2 ⟨isName, List.forall_mem_singleton.2 isMarking⟩
  · refine ⟨isTransition, ?_, List.cons_ne_nil _ _, ?_⟩
    · exact List.forall_mem_singleton.2 id
    · exact List.forall_mem_singleton.2 isName
  · refine ⟨isArc, ?_, List.cons_ne_nil _ _, ?_⟩
    · exact List.forall_mem_cons.2 ⟨id, List.forall_mem_cons.2
        ⟨source, List.forall_mem_singleton.2 target⟩⟩
    · obtain ⟨⟨place, transition, kind⟩, number⟩ := entry
      cases kind with
      | consume | produce => exact List.forall_mem_nil _
      | catalyst | inhibit => exact List.forall_mem_singleton.2 isType

theorem filter_objectsOf :
    (objectsOf net).filter (fun object => object.sort == "place") =
        net.places.zipIdx.map placeObject ∧
      (objectsOf net).filter (fun object => object.sort == "transition") =
        net.transitions.zipIdx.map transitionObject ∧
      (objectsOf net).filter (fun object => object.sort == "arc") =
        net.arcs.zipIdx.map arcObject := by
  refine ⟨?_, ?_, ?_⟩ <;>
    simp [objectsOf, List.filter_map, Function.comp_def, placeObject, transitionObject, arcObject]

theorem place?_placeObject (entry : Place × PlaceId) :
    (placeObject entry).place? = some entry.1 := by
  obtain ⟨⟨name, factual⟩, id⟩ := entry
  cases factual <;> rfl

/-- **An arc is found again**, since its ends exist. -/
theorem arc?_arcObject {net : Net} (consistent : net.Consistent) {entry : Arc × ArcId}
    (listed : entry.1 ∈ net.arcs) :
    (arcObject entry).arc? (net.places.zipIdx.map fun entry => PlaceId.text entry.2)
      (net.transitions.zipIdx.map fun entry => TransitionId.text entry.2) = some entry.1 := by
  obtain ⟨inTransitions, inPlaces⟩ := consistent.ends_inside listed
  obtain ⟨⟨place, transition, kind⟩, id⟩ := entry
  have placeFound : (net.places.zipIdx.map fun entry => PlaceId.text entry.2).idxOf?
      (PlaceId.text place) = some place :=
    idxOf?_identifier (fun _ _ => number_eq_of_identifier_eq) inPlaces
  have transitionFound : (net.transitions.zipIdx.map fun entry => TransitionId.text entry.2).idxOf?
      (TransitionId.text transition) = some transition :=
    idxOf?_identifier (fun _ _ => number_eq_of_identifier_eq) inTransitions
  have noPlace : (net.places.zipIdx.map fun entry => PlaceId.text entry.2).idxOf?
      (TransitionId.text transition) = none :=
    idxOf?_foreign fun number => place_text_ne number transition
  have source : (arcObject (⟨place, transition, kind⟩, id)).attribute? "source" =
      some (Net.arcEnds ⟨place, transition, kind⟩).1 := rfl
  have target : (arcObject (⟨place, transition, kind⟩, id)).attribute? "target" =
      some (Net.arcEnds ⟨place, transition, kind⟩).2 := rfl
  cases kind with
  | produce =>
    simp only [Object.arc?, source, target, Net.arcEnds, Option.bind_eq_bind, Option.bind_some,
      noPlace, placeFound, transitionFound]
    rfl
  | consume | catalyst | inhibit =>
    simp only [Object.arc?, source, target, Net.arcEnds, Option.bind_eq_bind, Option.bind_some,
      placeFound, transitionFound]
    rfl

/-- Something is read of each of the objects that stand for the entries of a table. -/
theorem mapM_objects {α β : Type} {items : List α} {object : α × Nat → Object}
    {find : Object → Option β} {value : α × Nat → β}
    (found : ∀ entry ∈ items.zipIdx, find (object entry) = some (value entry)) :
    (items.zipIdx.map object).mapM find = some (items.zipIdx.map value) := by
  rw [List.mapM_map]
  exact Guarded.mapM_eq_some found

/-- The objects of a consistent net make up its drawing. -/
theorem ofObjects?_objectsOf {net : Net} (consistent : net.Consistent) :
    Drawing.ofObjects? (objectsOf net) = some (drawing net) := by
  obtain ⟨places, transitions, arcs⟩ := filter_objectsOf net
  have placeIds : (net.places.zipIdx.map placeObject).mapM (·.attribute? "id") =
      some (net.places.zipIdx.map fun entry => PlaceId.text entry.2) :=
    mapM_objects fun _ _ => rfl
  have transitionIds : (net.transitions.zipIdx.map transitionObject).mapM (·.attribute? "id") =
      some (net.transitions.zipIdx.map fun entry => TransitionId.text entry.2) :=
    mapM_objects fun _ _ => rfl
  have placesRead := mapM_objects fun entry (_ : entry ∈ net.places.zipIdx) =>
    place?_placeObject entry
  have namesRead : (net.transitions.zipIdx.map transitionObject).mapM (·.label? "name") =
      some (net.transitions.zipIdx.map (Transition.name ∘ Prod.fst)) :=
    mapM_objects fun _ _ => rfl
  have arcsRead := mapM_objects fun entry (listed : entry ∈ net.arcs.zipIdx) =>
    arc?_arcObject consistent (List.fst_mem_of_mem_zipIdx listed)
  rw [List.zipIdx_map_fst] at placesRead arcsRead
  rw [← List.map_map, List.zipIdx_map_fst] at namesRead
  simp only [Drawing.ofObjects?, places, transitions, arcs, placeIds, transitionIds, placesRead,
    namesRead, arcsRead, Option.bind_eq_bind, Option.bind_some, Option.pure_def, drawing]

end Nets

/-- The objects of the transitions take nothing from them but their names. -/
theorem map_transitionObject (net : Net) :
    net.transitions.zipIdx.map transitionObject =
      (net.transitions.map Transition.name).zipIdx.map fun entry =>
        transitionObject ({ name := entry.1 }, entry.2) := by
  rw [List.zipIdx_map, List.map_map]
  rfl

/-- **A document loses nothing of the net.** The places with their marks, the names of the
transitions and the arcs with their kinds can be read back from it, so that only nets that agree
in these have the same document. -/
theorem toPnml_tells {net : Net} (valid : net.validate = .ok ()) :
    read? net.toPnml = some (drawing net) ∧
      ∀ other : Net, other.validate = .ok () →
        (other.toPnml = net.toPnml ↔ other.places = net.places ∧
          other.transitions.map Transition.name = net.transitions.map Transition.name ∧
          other.arcs = net.arcs) := by
  have readBack (net : Net) (valid : net.validate = .ok ()) :
      read? net.toPnml = some (drawing net) := by
    rw [toPnml_eq, read?, objects?_document fun _ => isPlain_of_mem_objectsOf net,
      Option.bind_some, ofObjects?_objectsOf (Net.validate_eq_ok_iff.1 valid)]
  refine ⟨readBack net valid, fun other otherValid => ⟨?_, ?_⟩⟩
  · intro same
    have drawings : some (drawing other) = some (drawing net) := by
      rw [← readBack other otherValid, ← readBack net valid, same]
    simpa [drawing] using drawings
  · rintro ⟨places, names, arcs⟩
    simp only [toPnml_eq, objectsOf, map_transitionObject, places, names, arcs]

/-- A net whose names look like parts of its document, escaped ones among them. -/
def forged : Net where
  places := [{ name := "p</text></name>\n      </place>", factual := true },
    { name := "&lt;\"'\r\n" }]
  transitions := [{ name := "<transition id=\"t1\">", arcs := [0, 1] },
    { name := "", arcs := [2, 3] }]
  arcs := [⟨0, 0, .consume⟩, ⟨1, 0, .produce⟩, ⟨0, 1, .catalyst⟩, ⟨1, 1, .inhibit⟩]
  placeArcs := [[0, 2], [1, 3]]
  buses := ⟨[("<transition id=\"t1\">", [0]), ("", [1])], by decide⟩

/-- The names of the forged net come back as they are. If its first arc were that of a catalyst
or if the escape in its second name were resolved, the document would be another one. -/
theorem forged_toPnml_tells :
    let catalyzed := { forged with
      arcs := [⟨0, 0, .catalyst⟩, ⟨1, 0, .produce⟩, ⟨0, 1, .catalyst⟩, ⟨1, 1, .inhibit⟩] }
    let resolved := { forged with
      places := [{ name := "p</text></name>\n      </place>", factual := true },
        { name := "<\"'\r\n" }] }
    read? forged.toPnml = some (drawing forged) ∧ catalyzed.toPnml ≠ forged.toPnml ∧
      resolved.toPnml ≠ forged.toPnml := by
  have valid : forged.validate = .ok () := by decide +kernel
  obtain ⟨readBack, others⟩ := toPnml_tells valid
  refine ⟨readBack, fun same => ?_, fun same => ?_⟩
  · exact absurd ((others _ (by decide +kernel)).1 same).2.2 (by decide)
  · exact absurd ((others _ (by decide +kernel)).1 same).1 (by decide)

end EventNet.Pnml
