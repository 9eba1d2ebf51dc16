import EventNet.LabelMap

/-!
# Condition/event nets

A net has places, transition instances and arcs of four kinds. A place either holds a
token or does not; the factual places hold one at the start. Instances that carry the
same name form a bus.

The tables of a net refer to one another by position, and a net keeps three indices
beside its arc table: the arcs of every transition, the arcs of every place, and the
instances of every bus. Nothing in the type forces the indices to agree with the
tables; `Net.violation?` decides whether they do.
-/

set_option autoImplicit false

namespace EventNet

/-- The position of a place in the table of places. -/
abbrev PlaceId := Nat

/-- The position of a transition instance in the table of transitions. -/
abbrev TransitionId := Nat

/-- The position of an arc in the table of arcs. -/
abbrev ArcId := Nat

/-- Identifiers are shown with a letter for their table, counted from one. -/
def PlaceId.text (place : PlaceId) : String := "p" ++ toString (place + 1)

@[inherit_doc PlaceId.text]
def TransitionId.text (transition : TransitionId) : String := "t" ++ toString (transition + 1)

@[inherit_doc PlaceId.text]
def ArcId.text (arc : ArcId) : String := "a" ++ toString (arc + 1)

/-- What an arc does. -/
inductive ArcKind where
  /-- The place must be marked, and is cleared. -/
  | consume
  /-- The place becomes marked. -/
  | produce
  /-- The place must be marked, and stays so. -/
  | catalyst
  /-- The place must not be marked, and stays so. -/
  | inhibit
  deriving DecidableEq

namespace ArcKind

/-- All kinds, in the order of their declaration. -/
def all : List ArcKind := [consume, produce, catalyst, inhibit]

/-- The kind in running text. -/
def word : ArcKind → String
  | consume => "consume"
  | produce => "produce"
  | catalyst => "catalyst"
  | inhibit => "inhibit"

/-- The kind in a document. -/
def name : ArcKind → String
  | consume => "Consume"
  | produce => "Produce"
  | catalyst => "Catalyst"
  | inhibit => "Inhibit"

/-- The kind that a document names. -/
def ofName? (text : String) : Option ArcKind :=
  all.find? fun kind => kind.name == text

/-- A kind that asks for a token on its place. -/
def requiresToken : ArcKind → Bool
  | consume | catalyst => true
  | produce | inhibit => false

end ArcKind

/-- A place, by its label, and whether it is marked at the start. -/
structure Place where
  name : String
  factual : Bool := false
  deriving DecidableEq

/-- A transition instance: the label of its bus and the arcs at it. -/
structure Transition where
  name : String
  arcs : List ArcId := []
  deriving DecidableEq

/-- An arc between a place and a transition instance. -/
structure Arc where
  place : PlaceId
  transition : TransitionId
  kind : ArcKind
  deriving DecidableEq

/-- A condition/event net. -/
structure Net where
  places : List Place := []
  transitions : List Transition := []
  arcs : List Arc := []
  /-- The arcs at every place. -/
  placeArcs : List (List ArcId) := []
  /-- The instances of every bus, the buses in order of first appearance. -/
  buses : LabelMap (List TransitionId) := LabelMap.empty
  deriving DecidableEq

namespace Net

/-- The net without places, transitions and arcs. -/
def empty : Net := {}

instance : Inhabited Net := ⟨empty⟩

/-- The first place with this name. -/
def placeByName? (net : Net) (name : String) : Option PlaceId :=
  net.places.findIdx? fun place => place.name == name

/-- The arcs that the index of a transition lists. -/
def arcsOf (net : Net) (transition : TransitionId) : List Arc :=
  match net.transitions[transition]? with
  | none => []
  | some entry => entry.arcs.filterMap fun arc => net.arcs[arc]?

/-- The arcs that the index of a place lists. -/
def arcsAt (net : Net) (place : PlaceId) : List Arc :=
  match net.placeArcs[place]? with
  | none => []
  | some entry => entry.filterMap fun arc => net.arcs[arc]?

/-- The places that a transition reaches by arcs of one kind. -/
def placesOf (net : Net) (transition : TransitionId) (kind : ArcKind) : List PlaceId :=
  ((net.arcsOf transition).filter fun arc => arc.kind == kind).map Arc.place

/-- A transition that asks for no token. It happens at most once in a run. -/
def isSource (net : Net) (transition : TransitionId) : Bool :=
  !(net.arcsOf transition).any fun arc => arc.kind.requiresToken

/-- The instances of a bus. -/
def bus (net : Net) (label : String) : List TransitionId :=
  (net.buses.find? label).getD []

/-- The labels of the buses. -/
def labels (net : Net) : List String := net.buses.keys

/-- The places that are marked at the start. -/
def factualPlaces (net : Net) : List PlaceId :=
  (net.places.zipIdx.filter fun entry => entry.1.factual).map Prod.snd

end Net

end EventNet
