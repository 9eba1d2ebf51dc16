import EventNet.Firing.Enabled
import EventNet.Log
import EventNet.Random.Shuffle

/-!
# Steps

In a step as many enabled instances happen as can do so without taking the same token
twice. The enabled buses are put into a random order, a preferred one first, and their
instances are accepted one after another unless they consume a place that an accepted
one consumes.

The accepted instances happen together: first all places they consume are cleared, then
all places they produce are marked.
-/

set_option autoImplicit false

namespace EventNet

open EventNet.Random (WordSource)

/-- What happens in a step. -/
structure Step where
  /-- The buses with an accepted instance, in the order of acceptance. -/
  labels : List String := []
  /-- The accepted instances in order. -/
  instances : List TransitionId := []
  deriving DecidableEq

/-- The choice among enabled instances while it is being made. -/
structure Arbitration where
  step : Step := {}
  /-- The places that accepted instances consume. -/
  reserved : List PlaceId := []
  /-- The instances passed over, with the labels of their buses. -/
  displaced : List (TransitionId × String) := []

/-- The state of a run. -/
structure RunState where
  marking : Marking
  fired : FiredSources

namespace Engine

/-- Accepts an instance of a bus, or passes it over. -/
def consider (engine : Engine) (label : String) (arbitration : Arbitration)
    (transition : TransitionId) : Arbitration :=
  let consumed := (engine.preset transition).consumed
  if consumed.any arbitration.reserved.contains then
    { arbitration with displaced := arbitration.displaced ++ [(transition, label)] }
  else
    { arbitration with
      step := { arbitration.step with
        instances := arbitration.step.instances ++ [transition] }
      reserved := consumed ++ arbitration.reserved }

/-- Goes through the instances of a bus. The bus fires if one of them is accepted. -/
def considerBus (engine : Engine) (arbitration : Arbitration) (bus : EnabledBus) :
    Arbitration :=
  let after := bus.instances.foldl (engine.consider bus.label) arbitration
  if arbitration.step.instances.length < after.step.instances.length then
    { after with step := { after.step with labels := after.step.labels ++ [bus.label] } }
  else after

/-- Chooses among the instances of buses in the given order. -/
def arbitrate (engine : Engine) (buses : List EnabledBus) : Arbitration :=
  buses.foldl engine.considerBus {}

/-- The marking after instances have happened together. -/
def apply (engine : Engine) (instances : List TransitionId) (marking : Marking) : Marking :=
  let consumed := instances.flatMap fun transition => (engine.preset transition).consumed
  let produced := instances.flatMap fun transition => (engine.preset transition).produced
  let cleared := consumed.foldl (fun marking place => marking.set place false) marking
  produced.foldl (fun marking place => marking.set place true) cleared

/-- The fired sources after instances have happened. -/
def recordSources (engine : Engine) (instances : List TransitionId) (fired : FiredSources) :
    FiredSources :=
  (instances.filter engine.isSource).foldl FiredSources.insert fired

end Engine

/-- Moves the bus with a label to the front. -/
def preferring (preferred : Option String) (buses : List EnabledBus) : List EnabledBus :=
  match preferred with
  | none => buses
  | some label =>
    match buses.find? fun bus => bus.label == label with
    | none => buses
    | some bus => bus :: buses.eraseP fun bus => bus.label == label

namespace Engine

variable {σ : Type}

/-- One step, in which the preferred bus is considered first if it is enabled. There is
none if no bus is enabled, and then no word is drawn. -/
def step? [WordSource σ] (engine : Engine) (preferred : Option String) (state : RunState)
    (source : σ) : Option (Arbitration × RunState × σ) :=
  let buses := engine.enabledBuses state.marking state.fired
  if buses.isEmpty then none
  else
    let (shuffled, source) := Random.shuffle buses source
    let arbitration := engine.arbitrate (preferring preferred shuffled)
    let instances := arbitration.step.instances
    some (arbitration,
      { marking := engine.apply instances state.marking
        fired := engine.recordSources instances state.fired },
      source)

end Engine

/-- The log of a choice: the instances passed over. -/
def Arbitration.log (arbitration : Arbitration) : Log :=
  arbitration.displaced.map fun (transition, label) =>
    .debug ("instance " ++ TransitionId.text transition ++ " of bus '" ++ label ++
      "' displaced by conflict")

end EventNet
