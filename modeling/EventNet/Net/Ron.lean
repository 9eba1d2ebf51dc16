import EventNet.Fields
import EventNet.Net.Json
import EventNet.Ron.Reading

/-!
# Nets as RON documents

A net is a record of its five tables, in the order of their declaration. Identifiers are
wrapped in parentheses and kinds of arcs are bare words. Records may have their name in
front. Reading accepts a document only if the net in it is consistent.

Extensions that a document enables change what is read: identifiers may have to do
without their parentheses, and records and identifiers may have to have their names.
-/

set_option autoImplicit false

namespace EventNet

namespace Ron

/-! ## Writing -/

/-- A place. -/
def ofPlace (place : Place) : Ron :=
  .record none [("name", .string place.name), ("factual", bool place.factual)]

/-- A transition. -/
def ofTransition (transition : Transition) : Ron :=
  .record none [("name", .string transition.name), ("arcs", listOf id transition.arcs)]

/-- An arc. -/
def ofArc (arc : Arc) : Ron :=
  .record none [("place", id arc.place), ("transition", id arc.transition),
    ("kind", plain arc.kind.name)]

/-- A net. -/
def ofNet (net : Net) : Ron :=
  .record none [("places", listOf ofPlace net.places),
    ("transitions", listOf ofTransition net.transitions),
    ("arcs", listOf ofArc net.arcs),
    ("place_arcs", listOf (listOf id) net.placeArcs),
    ("buses", .map (net.buses.entries.map fun (label, members) =>
      (.string label, listOf id members)))]

/-! ## Reading -/

/-- Why a text holds no net. -/
inductive Refusal where
  /-- The text does not describe a net. -/
  | unreadable
  /-- The net contradicts itself. -/
  | rejected (reason : NetError)

/-- A way to get a value of a type. -/
abbrev Decoder (α : Type) := Ron → Except Refusal α

variable {α : Type}

/-- A truth value. -/
def Decoder.bool : Decoder Bool
  | .word "true" false => .ok true
  | .word "false" false => .ok false
  | _ => .error .unreadable

/-- A text. -/
def Decoder.string : Decoder String
  | .string text => .ok text
  | _ => .error .unreadable

/-- An identifier without parentheses. -/
def Decoder.bareId : Decoder Nat
  | .number literal =>
    match natOf? literal with
    | some value => if value ≤ maxId then .ok value else .error .unreadable
    | none => .error .unreadable
  | _ => .error .unreadable

/-- A kind of arcs. -/
def Decoder.arcKind : Decoder ArcKind
  | .word name _ =>
    match ArcKind.ofName? name with
    | some kind => .ok kind
    | none => .error .unreadable
  | _ => .error .unreadable

/-- A list of values of one type. -/
def Decoder.list (decode : Decoder α) : Decoder (List α)
  | .list items => items.mapM decode
  | _ => .error .unreadable

/-- The entries of a map. A label that comes again replaces the value and keeps its place. -/
def entriesOf (decode : Decoder α) :
    List (Ron × Ron) → LabelMap α → Except Refusal (LabelMap α)
  | [], before => .ok before
  | (key, value) :: entries, before => do
    let label ← Decoder.string key
    let value ← decode value
    entriesOf decode entries (before.insert label value)

/-- A map from labels. -/
def Decoder.labelMap (decode : Decoder α) : Decoder (LabelMap α)
  | .map entries => entriesOf decode entries LabelMap.empty
  | _ => .error .unreadable

/-- Fields of a record in a RON text. -/
abbrev RecordFields (α : Type) := Fields Ron Refusal α

/-- A field of a record. -/
def RecordFields.required (name : String) (decode : Decoder α) : RecordFields α :=
  Fields.single .unreadable none none name decode

/-- Gathers the fields of a record. -/
def gather (fields : RecordFields α) :
    List (String × Ron) → fields.Gathered → Except Refusal fields.Gathered
  | [], gathered => .ok gathered
  | (name, value) :: members, gathered =>
    match fields.accept name value gathered with
    | some (.error refusal) => .error refusal
    | some (.ok gathered) => gather fields members gathered
    | none => gather fields members gathered

/-! ### Under extensions -/

section Extended

variable (extensions : List Extension)

/-- The name in front of a value is the expected one, or there is none and none is needed. -/
def nameFits (expected : String) : Option String → Bool
  | none => !extensions.contains .explicitStructNames
  | some name => name == expected

/-- A record, which may have the name of its type in front. -/
def Decoder.ofFields (typeName : String) (fields : RecordFields α) : Decoder α
  | .record name members =>
    if nameFits extensions typeName name then do
      let gathered ← gather fields members fields.start
      fields.finish gathered
    else .error .unreadable
  | _ => .error .unreadable

/-- An identifier, which may have the name of its type in front of its parentheses. -/
def Decoder.wrappedId (typeName : String) : Decoder Nat
  | .tuple name [value] =>
    if nameFits extensions typeName name then Decoder.bareId value else .error .unreadable
  | _ => .error .unreadable

/-- An identifier. -/
def Decoder.id (typeName : String) : Decoder Nat :=
  if extensions.contains .unwrapNewtypes then Decoder.bareId
  else Decoder.wrappedId extensions typeName

/-- The identifier of an arc. -/
def Decoder.arcId : Decoder ArcId := Decoder.id extensions "ArcId"

/-- A place. -/
def Decoder.place : Decoder Place :=
  Decoder.ofFields extensions "Place" <|
    ((RecordFields.required "name" Decoder.string).both
      (RecordFields.required "factual" Decoder.bool)).map fun (name, factual) =>
        { name, factual }

/-- A transition. -/
def Decoder.transition : Decoder Transition :=
  Decoder.ofFields extensions "Transition" <|
    ((RecordFields.required "name" Decoder.string).both
      (RecordFields.required "arcs" (Decoder.arcId extensions).list)).map fun (name, arcs) =>
        { name, arcs }

/-- An arc. -/
def Decoder.arc : Decoder Arc :=
  Decoder.ofFields extensions "Arc" <|
    ((RecordFields.required "place" (Decoder.id extensions "PlaceId")).both
      ((RecordFields.required "transition" (Decoder.id extensions "TransitionId")).both
        (RecordFields.required "kind" Decoder.arcKind))).map fun (place, transition, kind) =>
          { place, transition, kind }

/-- The tables of a net, whether they agree or not. -/
def Decoder.tables : Decoder Net :=
  Decoder.ofFields extensions "RawNet" <|
    ((RecordFields.required "places" (Decoder.place extensions).list).both
      ((RecordFields.required "transitions" (Decoder.transition extensions).list).both
        ((RecordFields.required "arcs" (Decoder.arc extensions).list).both
          ((RecordFields.required "place_arcs" (Decoder.arcId extensions).list.list).both
            (RecordFields.required "buses"
              (Decoder.labelMap (Decoder.id extensions "TransitionId").list)))))).map
      fun (places, transitions, arcs, placeArcs, buses) =>
        { places, transitions, arcs, placeArcs, buses }

end Extended

end Ron

/-- The net as a RON document. -/
def Net.toRon (net : Net) : String := (Ron.ofNet net).text

/-- The consistent net in a RON document. Nothing may follow it. -/
def Net.ofRon (text : String) : Except Ron.Refusal Net :=
  match Ron.read? text with
  | none => .error .unreadable
  | some document => do
    let net ← Ron.Decoder.tables document.extensions document.value
    match net.violation? with
    | some violation => .error (.rejected violation)
    | none => if document.hasMore then .error .unreadable else .ok net

end EventNet
