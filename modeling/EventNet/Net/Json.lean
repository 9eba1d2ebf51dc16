import EventNet.Json.Decoder
import EventNet.Net.Consistency

/-!
# Nets as JSON documents

A net is an object with its five tables, in the order of their declaration. Reading
accepts a document only if the net in it is consistent.
-/

set_option autoImplicit false

namespace EventNet

/-- Identifiers in documents have 32 bits. -/
def maxId : Nat := Nat.pow 2 32 - 1

/-- Sizes, step numbers and seeds in documents have 64 bits. -/
def maxSize : Nat := Nat.pow 2 64 - 1

namespace Json

/-- A place. -/
def ofPlace (place : Place) : Json :=
  .object [("name", .string place.name), ("factual", .bool place.factual)]

/-- A transition. -/
def ofTransition (transition : Transition) : Json :=
  .object [("name", .string transition.name), ("arcs", list nat transition.arcs)]

/-- An arc. -/
def ofArc (arc : Arc) : Json :=
  .object [("place", nat arc.place), ("transition", nat arc.transition),
    ("kind", .string arc.kind.name)]

/-- A map from labels. -/
def ofLabelMap {α : Type} (encode : α → Json) (map : LabelMap α) : Json :=
  .object (map.entries.map fun entry => (entry.1, encode entry.2))

/-- A net. -/
def ofNet (net : Net) : Json :=
  .object [("places", list ofPlace net.places),
    ("transitions", list ofTransition net.transitions),
    ("arcs", list ofArc net.arcs),
    ("place_arcs", list (list nat) net.placeArcs),
    ("buses", ofLabelMap (list nat) net.buses)]

/-- Reading a document with a net may fail because the net contradicts itself. -/
abbrev NetDecoder (α : Type) := Decoder NetError α

/-- An identifier. -/
def Decoder.id : NetDecoder Nat := Decoder.nat maxId

/-- A kind of arcs. -/
def Decoder.arcKind : NetDecoder ArcKind := Decoder.choice ArcKind.ofName?

/-- A place. -/
def Decoder.place : NetDecoder Place :=
  Decoder.ofFields <|
    ((RecordFields.required "name" Decoder.string).both
      (RecordFields.required "factual" Decoder.bool)).map fun (name, factual) =>
        { name, factual }

/-- A transition. -/
def Decoder.transition : NetDecoder Transition :=
  Decoder.ofFields <|
    ((RecordFields.required "name" Decoder.string).both
      (RecordFields.required "arcs" Decoder.id.list)).map fun (name, arcs) => { name, arcs }

/-- An arc. -/
def Decoder.arc : NetDecoder Arc :=
  Decoder.ofFields <|
    ((RecordFields.required "place" Decoder.id).both
      ((RecordFields.required "transition" Decoder.id).both
        (RecordFields.required "kind" Decoder.arcKind))).map fun (place, transition, kind) =>
          { place, transition, kind }

/-- The tables of a net, whether they agree or not. -/
def Decoder.tables : NetDecoder Net :=
  Decoder.ofFields <|
    ((RecordFields.required "places" Decoder.place.list).both
      ((RecordFields.required "transitions" Decoder.transition.list).both
        ((RecordFields.required "arcs" Decoder.arc.list).both
          ((RecordFields.required "place_arcs" Decoder.id.list.list).both
            (RecordFields.required "buses" (Decoder.labelMap Decoder.id.list)))))).map
      fun (places, transitions, arcs, placeArcs, buses) =>
        { places, transitions, arcs, placeArcs, buses }

/-- A consistent net. -/
def Decoder.net : NetDecoder Net := fun reading => do
  let net ← Decoder.tables reading
  match net.violation? with
  | none => .ok net
  | some violation => .error (.rejected violation)

end Json

/-- The net as a JSON document. -/
def Net.toJson (net : Net) : String := (Json.ofNet net).text

/-- The consistent net in a JSON document. -/
def Net.ofJson (text : String) : Except (Json.Refusal NetError) Net := Json.Decoder.net.run text

end EventNet
