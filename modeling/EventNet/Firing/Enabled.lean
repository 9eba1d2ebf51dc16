import EventNet.Marking

/-!
# Enabled transitions

A transition instance is enabled when all places it consumes or uses as a catalyst are
marked and none that inhibits it is. A source asks for no token and would be enabled
forever; so it may happen once in a run, and a run keeps the sources that have fired.

An engine holds the places of every transition by the kind of arc, so that they are
looked up once and not in every step. A bus is enabled when one of its instances is.
-/

set_option autoImplicit false

namespace EventNet

/-- The places at a transition, by the kind of arc. -/
structure Preset where
  consumed : List PlaceId := []
  catalysts : List PlaceId := []
  inhibitors : List PlaceId := []
  produced : List PlaceId := []
  deriving DecidableEq

namespace Preset

/-- The places of one kind among arcs. -/
def placesBy (kind : ArcKind) (arcs : List Arc) : List PlaceId :=
  (arcs.filter fun arc => arc.kind == kind).map Arc.place

/-- The places at a transition with these arcs. -/
def ofArcs (arcs : List Arc) : Preset where
  consumed := placesBy .consume arcs
  catalysts := placesBy .catalyst arcs
  inhibitors := placesBy .inhibit arcs
  produced := placesBy .produce arcs

/-- A transition that asks for no token. -/
def isSource (preset : Preset) : Bool := preset.consumed.isEmpty && preset.catalysts.isEmpty

/-- The marking has the tokens that are asked for, and none on an inhibiting place. -/
def holds (preset : Preset) (marking : Marking) : Bool :=
  preset.consumed.all marking.isMarked && preset.catalysts.all marking.isMarked &&
    !preset.inhibitors.any marking.isMarked

end Preset

/-- The sources that have fired in a run, each once. -/
structure FiredSources where
  members : List TransitionId
  nodup : members.Nodup

namespace FiredSources

/-- No source has fired. -/
def empty : FiredSources := ⟨[], List.nodup_nil⟩

instance : Inhabited FiredSources := ⟨empty⟩

/-- The source has fired. -/
def contains (fired : FiredSources) (transition : TransitionId) : Bool :=
  fired.members.contains transition

/-- The sources and one more. -/
def insert (fired : FiredSources) (transition : TransitionId) : FiredSources :=
  if fresh : transition ∈ fired.members then fired
  else ⟨transition :: fired.members, List.nodup_cons.2 ⟨fresh, fired.nodup⟩⟩

/-- How many sources have fired. -/
def size (fired : FiredSources) : Nat := fired.members.length

end FiredSources

/-- A net with the places of its transitions. -/
structure Engine where
  net : Net
  presets : Array Preset

/-- A bus and those of its instances that are enabled. -/
structure EnabledBus where
  label : String
  instances : List TransitionId
  deriving DecidableEq

namespace Engine

/-- The engine of a net. -/
def ofNet (net : Net) : Engine where
  net
  presets :=
    ((List.range net.transitions.length).map fun id => Preset.ofArcs (net.arcsOf id)).toArray

/-- The places of a transition. -/
def preset (engine : Engine) (transition : TransitionId) : Preset :=
  engine.presets[transition]?.getD {}

/-- A transition that asks for no token. -/
def isSource (engine : Engine) (transition : TransitionId) : Bool :=
  (engine.preset transition).isSource

/-- A transition that may happen in a marking. -/
def isEnabled (engine : Engine) (marking : Marking) (fired : FiredSources)
    (transition : TransitionId) : Bool :=
  let preset := engine.preset transition
  !(preset.isSource && fired.contains transition) && preset.holds marking

/-- All transitions that may happen, in order. -/
def enabledInstances (engine : Engine) (marking : Marking) (fired : FiredSources) :
    List TransitionId :=
  (List.range engine.net.transitions.length).filter (engine.isEnabled marking fired)

/-- All buses with a transition that may happen, in order. -/
def enabledBuses (engine : Engine) (marking : Marking) (fired : FiredSources) :
    List EnabledBus :=
  engine.net.buses.entries.filterMap fun (label, members) =>
    let instances := members.filter (engine.isEnabled marking fired)
    if instances.isEmpty then none else some { label, instances }

/-- No transition may happen. -/
def isQuiescent (engine : Engine) (marking : Marking) (fired : FiredSources) : Bool :=
  !(List.range engine.net.transitions.length).any (engine.isEnabled marking fired)

end Engine

end EventNet
