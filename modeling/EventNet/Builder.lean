import EventNet.Log
import EventNet.Net.Growth
import EventNet.Statement
import EventNet.Text.Blank

/-!
# Building a net from statements

A label always means the same place, and every clause makes a transition instance of
its own; instances with one label form a bus. Labels are trimmed first.

Building never stops. A faulty statement is reported and contributes what it can: the
places it mentions are known to later statements, also when the statement itself names
no transition or when an arc is left out because it contradicts an earlier one.
-/

set_option autoImplicit false

namespace EventNet

/-- A net under construction. -/
structure Builder where
  net : Net := Net.empty
  /-- The place of every label met so far. -/
  registry : LabelMap PlaceId := LabelMap.empty
  /-- The faults found so far. -/
  errors : List BuildError := []
  log : Log := []

namespace Builder

/-- The place of a label: known already, or new. -/
def place (builder : Builder) (label : String) : PlaceId × Builder :=
  match builder.registry.find? label with
  | some id => (id, builder)
  | none =>
    let (id, net) := builder.net.addPlace { name := label }
    (id, { builder with net, registry := builder.registry.insert label id })

/-- Text about the statement at a position, counted from one. -/
def aboutStatement (index : Nat) (text : String) : String :=
  "statement " ++ toString (index + 1) ++ ": " ++ text

/-- Reports a fault of the statement at a position. -/
def report (builder : Builder) (index : Nat) (fault : BuildFault) : Builder :=
  { builder with
    errors := builder.errors ++ [{ index := some index, fault }]
    log := builder.log ++ [.debug (aboutStatement index fault.message)] }

/-- Looks up the place of a label after trimming; a blank label is reported and has none. -/
def placeOf? (builder : Builder) (index : Nat) (label : String) : Option PlaceId × Builder :=
  let label := Text.trim label
  if label.isEmpty then (none, builder.report index .emptyLabel)
  else
    let (id, builder) := builder.place label
    (some id, builder)

/-- Two arcs of one clause on one place contradict each other if they have different
kinds and neither produces a token. -/
def contradicts (first second : ArcKind) : Bool :=
  first != second && first != .produce && second != .produce

/-- The kind of the first arc of a transition on a place that contradicts `kind`. -/
def conflictingKind? (net : Net) (place : PlaceId) (transition : TransitionId)
    (kind : ArcKind) : Option ArcKind :=
  ((net.arcsOf transition).find? fun arc =>
    arc.place == place && contradicts arc.kind kind).map Arc.kind

/-- Marks the place of a label at the start. -/
def pushFact (index : Nat) (builder : Builder) (label : String) : Builder :=
  match builder.placeOf? index label with
  | (none, builder) => builder
  | (some id, builder) =>
    { builder with net := { builder.net with
        places := builder.net.places.modify id fun place => { place with factual := true } } }

/-- Adds an arc of a clause to its transition. -/
def pushArc (index : Nat) (label : String) (transition : TransitionId) (builder : Builder)
    (arc : ArcKind × String) : Builder :=
  match builder.placeOf? index arc.2 with
  | (none, builder) => builder
  | (some place, builder) =>
    match conflictingKind? builder.net place transition arc.1 with
    | some previous =>
      builder.report index (.conflictingArcs (Text.trim arc.2) label arc.1 previous)
    | none =>
      match builder.net.addArc place transition arc.1 with
      | .ok (_, net) => { builder with net }
      | .error error =>
        { builder with log := builder.log ++ [.error (aboutStatement index error.message)] }

/-- Makes the places of a clause known. -/
def pushMention (index : Nat) (builder : Builder) (arc : ArcKind × String) : Builder :=
  (builder.placeOf? index arc.2).2

/-- Adds the transition instance of a clause. -/
def pushInstance (builder : Builder) (index : Nat) (label : String) : TransitionId × Builder :=
  let (id, net) := builder.net.addTransition label
  let note := "new instance " ++ TransitionId.text id ++ " of bus '" ++ label ++ "'"
  (id, { builder with net, log := builder.log ++ [.debug (aboutStatement index note)] })

/-- Takes in the statement at a position. -/
def push (builder : Builder) (index : Nat) : Statement → Builder
  | .factual [] => builder.report index .emptyStatement
  | .factual labels => labels.foldl (pushFact index) builder
  | .clause transition arcs =>
    let label := Text.trim transition
    if label.isEmpty then
      (arcs.foldl (pushMention index) builder).report index .missingTransition
    else
      let (id, builder) := builder.pushInstance index label
      arcs.foldl (pushArc index label id) builder

/-- The record of the finished net. -/
def closingRecord (builder : Builder) : LogRecord :=
  .debug ("built net: " ++ toString builder.registry.size ++ " unique places, " ++
    toString builder.net.transitions.length ++ " transitions, " ++
    toString builder.net.arcs.length ++ " arcs, " ++
    toString builder.errors.length ++ " errors")

/-- The log of the whole construction. -/
def finalLog (builder : Builder) : Log := builder.log ++ [builder.closingRecord]

/-- Takes in statements one after another, the first at position `index`. -/
def pushAll (builder : Builder) : (index : Nat) → List Statement → Builder
  | _, [] => builder
  | index, statement :: statements =>
    (builder.push index statement).pushAll (index + 1) statements

/-- The construction from a whole list of statements. -/
def ofStatements (statements : List Statement) : Builder :=
  ({} : Builder).pushAll 0 statements

end Builder

end EventNet
