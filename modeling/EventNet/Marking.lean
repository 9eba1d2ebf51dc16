import EventNet.Net.Consistency

/-!
# Markings

A marking says of every place whether it holds a token. Outside the net it is
reported by name: as a snapshot, which is a map from the labels of the places, and as
a text that lists the marked places.

Of several places with one name a snapshot keeps one entry, at the position of the
first and with the value of the last.
-/

set_option autoImplicit false

namespace EventNet

/-- Which places hold a token, by position. -/
structure Marking where
  marks : List Bool
  deriving DecidableEq

/-- The marking by the names of the places. -/
abbrev Snapshot := LabelMap Bool

/-- Names in braces with commas between them. -/
def braced (names : List String) : String :=
  "\x7b" ++ ", ".intercalate names ++ "\x7d"

/-- The marked places of a snapshot in braces. -/
def Snapshot.text (snapshot : Snapshot) : String :=
  braced ((snapshot.entries.filter Prod.snd).map Prod.fst)

namespace Marking

/-- The marking at the start of a run: the factual places are marked. -/
def initial (net : Net) : Marking := ⟨net.places.map Place.factual⟩

/-- Whether a place holds a token. -/
def isMarked (marking : Marking) (place : PlaceId) : Bool :=
  marking.marks[place]?.getD false

/-- The marking with another value for one place. -/
def set (marking : Marking) (place : PlaceId) (marked : Bool) : Marking :=
  ⟨marking.marks.set place marked⟩

/-- The marked places in order. -/
def markedPlaces (marking : Marking) : List PlaceId :=
  (marking.marks.zipIdx.filter Prod.fst).map Prod.snd

/-- The marking by name. -/
def snapshot (net : Net) (marking : Marking) : Snapshot :=
  LabelMap.ofList (net.places.zipIdx.map fun (place, id) => (place.name, marking.isMarked id))

/-- The names of the marked places in braces. -/
def text (net : Net) (marking : Marking) : String :=
  braced (marking.markedPlaces.map fun id => (net.places[id]?.map Place.name).getD "")

/-- The marking by position, for inspection. -/
def inspect (marking : Marking) : String :=
  braced (marking.marks.zipIdx.map fun (marked, id) => PlaceId.raw id ++ ": " ++ toString marked)

end Marking

end EventNet
