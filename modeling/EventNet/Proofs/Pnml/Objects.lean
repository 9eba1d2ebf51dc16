import EventNet.Proofs.Text.Markup

/-!
# The objects of PNML documents

A reader of PNML documents as far as their form goes. It keeps the elements that are open, and
every element in a page is an object, with the attributes of its tag and with its labels, each
of which has a text (`Reading.take?`). How a document is laid out on lines makes no difference.

Objects are read as they were written (`objects?_document`). The texts of labels may be anything,
also such as look like parts of a document, since marked-up text is read as it was written.
-/

set_option autoImplicit false

namespace EventNet.Pnml

open Markup (Piece Tag)

/-! ## Objects -/

/-- An object of a page, with its labels, each of which has a text. -/
structure Object where
  sort : String
  attributes : List (String × String)
  labels : List (String × String) := []
  deriving DecidableEq

/-- What has been read of a document. -/
structure Reading where
  /-- The elements that are open, the innermost first. -/
  path : List String := []
  /-- The object that is open. -/
  object : Object := { sort := "", attributes := [] }
  objects : List Object := []
  deriving DecidableEq

namespace Reading

/-- An element opens. In a page it is an object. -/
def enter (reading : Reading) (tag : Tag) : Reading :=
  { reading with
    path := tag.name :: reading.path
    object := if reading.path.head? = some "page" then
        { sort := tag.name, attributes := tag.attributes } else reading.object }

/-- The innermost element closes. -/
def leave (reading : Reading) : Reading :=
  if reading.path[1]? = some "page" then
    { path := reading.path.tail, objects := reading.objects ++ [reading.object] }
  else { reading with path := reading.path.tail }

/-- A text. In an element for texts it is that of the label around it. -/
def note (reading : Reading) (text : String) : Reading :=
  if reading.path.head? = some "text" ∧ reading.path[3]? = some "page" then
    { reading with object := { reading.object with
        labels := reading.object.labels ++ [(reading.path[1]?.getD "", text)] } }
  else reading

/-- A tag. An element is closed by its name, and at once if it is empty. Instructions are passed
over. -/
def turn? (reading : Reading) (tag : Tag) : Option Reading :=
  if tag.sign = some '?' then some reading
  else if tag.sign = some '/' then some (reading.enter tag).leave
  else if reading.path.head?.map ("/" ++ ·) = some tag.name then some reading.leave
  else if tag.name.toList.head? = some '/' then none
  else some (reading.enter tag)

/-- A text and the tag behind it. -/
def take? (reading : Reading) (piece : Piece) : Option Reading :=
  (reading.note piece.text).turn? piece.tag

end Reading

/-- The objects of a document. -/
def objects? (document : String) : Option (List Object) :=
  match Markup.read? document with
  | none => none
  | some (pieces, _) =>
    match pieces.foldlM Reading.take? {} with
    | none => none
    | some reading => if reading.path = [] then some reading.objects else none

/-! ## Documents of objects -/

/-- The tag that closes an element. -/
def closing (name : String) : Tag := { name := "/" ++ name }

/-- A label of an object on a line of its own. -/
def labelPieces (label : String × String) : List Piece :=
  [⟨"\n        ", { name := label.1 }⟩, ⟨"", { name := "text" }⟩, ⟨label.2, closing "text"⟩,
    ⟨"", closing label.1⟩]

/-- An object in a document. Without labels it is an empty element. -/
def Object.pieces (object : Object) : List Piece :=
  if object.labels = [] then
    [⟨"\n      ", { name := object.sort, attributes := object.attributes, sign := some '/' }⟩]
  else
    ⟨"\n      ", { name := object.sort, attributes := object.attributes }⟩ ::
      (object.labels.flatMap labelPieces ++ [⟨"\n      ", closing object.sort⟩])

/-- The document up to the first object. -/
def header : List Piece :=
  [⟨"", { name := "?xml", attributes := [("version", "1.0"), ("encoding", "utf-8")],
          sign := some '?' }⟩,
    ⟨"\n", { name := "pnml" }⟩,
    ⟨"\n  ", { name := "net", attributes := [("id", "net1"), ("type", Net.pnmlType)] }⟩,
    ⟨"\n    ", { name := "page", attributes := [("id", "page1")] }⟩]

/-- The document behind the last object. -/
def footer : List Piece :=
  [⟨"\n    ", closing "page"⟩, ⟨"\n  ", closing "net"⟩, ⟨"\n", closing "pnml"⟩]

/-- The document with these objects. -/
def document (objects : List Object) : String :=
  String.ofList (Markup.write (header ++ objects.flatMap Object.pieces ++ footer) "\n")

/-- The name of an element in a page. -/
structure IsElement (name : String) : Prop where
  plain : Markup.Mode.name.IsPlain name.toList
  no_slash : name.toList.head? ≠ some '/'
  no_page : name ≠ "page"

instance (name : String) : Decidable (IsElement name) :=
  decidable_of_iff
    (Markup.Mode.name.IsPlain name.toList ∧ name.toList.head? ≠ some '/' ∧ name ≠ "page")
    ⟨fun ⟨plain, noSlash, noPage⟩ => ⟨plain, noSlash, noPage⟩,
      fun ⟨plain, noSlash, noPage⟩ => ⟨plain, noSlash, noPage⟩⟩

theorem isElement_text : IsElement "text" := by decide

/-- An object that can be read back. -/
structure Object.IsPlain (object : Object) : Prop where
  sort : IsElement object.sort
  keys : ∀ entry ∈ object.attributes, Markup.Mode.key.IsPlain entry.1.toList
  attributes : object.attributes ≠ []
  labels : ∀ label ∈ object.labels, IsElement label.1

namespace Reading

variable {path : List String} {object : Object} {objects : List Object}

/-- An element that is not closed by this tag opens. -/
theorem take?_open {tag : Tag} (element : IsElement tag.name) (unsigned : tag.sign = none)
    (quiet : path[3]? ≠ some "page") (text : String) :
    take? { path, object, objects } ⟨text, tag⟩ = some (enter { path, object, objects } tag) := by
  have opens : ¬path.head?.map ("/" ++ ·) = some tag.name := by
    intro same
    obtain ⟨name, -, closed⟩ := Option.map_eq_some_iff.1 same
    refine element.no_slash ?_
    rw [← closed, String.toList_append]
    rfl
  rw [take?, note, if_neg (fun both => quiet both.2), turn?, unsigned, if_neg nofun, if_neg nofun,
    if_neg opens, if_neg element.no_slash]

/-- The innermost element closes. -/
theorem take?_closing (name text : String) :
    take? { path := name :: path, object, objects } ⟨text, closing name⟩ =
      some (note { path := name :: path, object, objects } text).leave := by
  have noted : (note { path := name :: path, object, objects } text).path = name :: path := by
    unfold note
    split <;> rfl
  have closes : (name :: path).head?.map ("/" ++ ·) = some (closing name).name := rfl
  rw [take?, turn?, if_neg nofun, if_neg nofun, noted, if_pos closes]

/-- The elements around the objects. -/
def outer : List String := ["page", "net", "pnml"]

/-- A label is added to the object. -/
theorem foldlM_labelPieces {sort : String} {label : String × String} (inPage : IsElement sort)
    (element : IsElement label.1) :
    (labelPieces label).foldlM take? { path := sort :: outer, object, objects } =
      some { path := sort :: outer
             object := { object with labels := object.labels ++ [label] }
             objects } := by
  obtain ⟨name, text⟩ := label
  have opened : take? { path := sort :: outer, object, objects } ⟨"\n        ", { name }⟩ =
      some { path := name :: sort :: outer, object, objects } := by
    rw [take?_open element rfl (by simp [outer])]
    simp [enter, inPage.no_page]
  have textOpened : take? { path := name :: sort :: outer, object, objects }
      ⟨"", { name := "text" }⟩ =
        some { path := "text" :: name :: sort :: outer, object, objects } := by
    rw [take?_open isElement_text rfl (by simp [outer])]
    simp [enter, element.no_page]
  have textClosed : take? { path := "text" :: name :: sort :: outer, object, objects }
      ⟨text, closing "text"⟩ =
        some { path := name :: sort :: outer
               object := { object with labels := object.labels ++ [(name, text)] }
               objects } := by
    rw [take?_closing]
    simp [note, leave, outer, element.no_page]
  have closed (object : Object) : take? { path := name :: sort :: outer, object, objects }
      ⟨"", closing name⟩ = some { path := sort :: outer, object, objects } := by
    rw [take?_closing]
    simp [note, leave, outer, inPage.no_page]
  simp only [labelPieces, List.foldlM_cons, List.foldlM_nil, opened, textOpened, textClosed, closed,
    Option.bind_eq_bind, Option.bind_some, Option.pure_def]

theorem foldlM_labels {sort : String} (inPage : IsElement sort) (labels : List (String × String))
    (elements : ∀ label ∈ labels, IsElement label.1) :
    (labels.flatMap labelPieces).foldlM take? { path := sort :: outer, object, objects } =
      some { path := sort :: outer
             object := { object with labels := object.labels ++ labels }
             objects } := by
  induction labels generalizing object with
  | nil => simp
  | cons label labels ih =>
    obtain ⟨here, others⟩ := List.forall_mem_cons.1 elements
    rw [List.flatMap_cons, List.foldlM_append, foldlM_labelPieces inPage here, Option.bind_eq_bind,
      Option.bind_some, ih others, List.append_assoc, List.singleton_append]

/-- **An object is read as it is.** -/
theorem foldlM_pieces (plain : object.IsPlain) :
    object.pieces.foldlM take? { path := outer, objects } =
      some { path := outer, objects := objects ++ [object] } := by
  obtain ⟨sort, attributes, labels⟩ := object
  unfold Object.pieces
  split
  · rename_i none
    simp only at none
    subst none
    rfl
  · have opened : take? { path := outer, objects } ⟨"\n      ", { name := sort, attributes }⟩ =
        some { path := sort :: outer, object := { sort, attributes }, objects } := by
      rw [take?_open plain.sort rfl (by simp [outer])]
      simp [enter, outer]
    have closed (object : Object) : take? { path := sort :: outer, object, objects }
        ⟨"\n      ", closing sort⟩ = some { path := outer, objects := objects ++ [object] } := by
      rw [take?_closing]
      simp [note, leave, outer]
    simp only [List.foldlM_cons, List.foldlM_nil, List.foldlM_append, opened, closed,
      foldlM_labels plain.sort labels plain.labels, Option.bind_eq_bind, Option.bind_some,
      Option.pure_def, List.nil_append]

theorem foldlM_objects (more : List Object) (plain : ∀ object ∈ more, object.IsPlain) :
    (more.flatMap Object.pieces).foldlM take? { path := outer, objects } =
      some { path := outer, objects := objects ++ more } := by
  induction more generalizing objects with
  | nil => simp
  | cons object more ih =>
    obtain ⟨here, others⟩ := List.forall_mem_cons.1 plain
    rw [List.flatMap_cons, List.foldlM_append, foldlM_pieces here, Option.bind_eq_bind,
      Option.bind_some, ih others, List.append_assoc, List.singleton_append]

end Reading

/-! ## Reading objects back -/

theorem IsElement.isPlain_opening {name : String} (element : IsElement name) :
    ({ name } : Tag).IsPlain where
  name_plain := element.plain
  keys_plain := by simp
  sign_known := by simp
  sign_behind _ := rfl

theorem IsElement.isPlain_closing {name : String} (element : IsElement name) :
    (closing name).IsPlain where
  name_plain := by
    have slash : (closing name).name.toList = '/' :: name.toList := String.toList_append
    rw [slash]
    exact List.forall_mem_cons.2 ⟨rfl, element.plain⟩
  keys_plain := by simp [closing]
  sign_known := by simp [closing]
  sign_behind _ := rfl

theorem isPlain_labelPieces {label : String × String} (element : IsElement label.1) :
    ∀ piece ∈ labelPieces label, piece.tag.IsPlain := by
  simp only [labelPieces, List.forall_mem_cons]
  exact ⟨element.isPlain_opening, isElement_text.isPlain_opening,
    isElement_text.isPlain_closing, element.isPlain_closing, List.forall_mem_nil _⟩

theorem Object.IsPlain.isPlain_pieces {object : Object} (plain : object.IsPlain) :
    ∀ piece ∈ object.pieces, piece.tag.IsPlain := by
  unfold Object.pieces
  split
  · refine List.forall_mem_singleton.2 ⟨plain.sort.plain, plain.keys, ?_, ?_⟩
    · simp
    · exact fun none => absurd none plain.attributes
  · refine List.forall_mem_cons.2 ⟨⟨plain.sort.plain, plain.keys, by simp, fun _ => rfl⟩, ?_⟩
    refine List.forall_mem_append.2 ⟨?_, List.forall_mem_singleton.2 plain.sort.isPlain_closing⟩
    intro piece listed
    obtain ⟨label, inLabels, inLabel⟩ := List.mem_flatMap.1 listed
    exact isPlain_labelPieces (plain.labels label inLabels) piece inLabel

/-- **The objects are read back from a document that was written of them.** -/
theorem objects?_document {objects : List Object} (plain : ∀ object ∈ objects, object.IsPlain) :
    objects? (document objects) = some objects := by
  have headerPlain : ∀ piece ∈ header, piece.tag.IsPlain := by decide +kernel
  have footerPlain : ∀ piece ∈ footer, piece.tag.IsPlain := by decide +kernel
  have objectsPlain : ∀ piece ∈ objects.flatMap Object.pieces, piece.tag.IsPlain := by
    intro piece listed
    obtain ⟨object, inObjects, inObject⟩ := List.mem_flatMap.1 listed
    exact (plain object inObjects).isPlain_pieces piece inObject
  have begun : header.foldlM Reading.take? {} = some { path := Reading.outer } := by
    decide +kernel
  have ended : footer.foldlM Reading.take? { path := Reading.outer, objects } =
      some { objects } := rfl
  have taken : (header ++ objects.flatMap Object.pieces ++ footer).foldlM Reading.take? {} =
      some { objects } := by
    simp only [List.foldlM_append, begun, Reading.foldlM_objects objects plain,
      Option.bind_eq_bind, Option.bind_some, List.nil_append, ended]
  rw [objects?, document, Markup.read?_write (List.forall_mem_append.2
    ⟨List.forall_mem_append.2 ⟨headerPlain, objectsPlain⟩, footerPlain⟩)]
  dsimp only
  rw [taken]
  rfl

end EventNet.Pnml
