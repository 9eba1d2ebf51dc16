import EventNet.Proofs.Firing.Effect
import EventNet.Proofs.Guarded.Net

/-!
# Looking up during a step

An engine looks up the places of a transition by its position, and the mark of a place by
the position of the place. Arbitration keeps a table of reservations with an entry for
every place, which it looks up as well. Here a step is written so that it fails at a
position that does not exist.

In a consistent net nothing fails, as long as the marking has one entry for every place:
the transitions considered come from the buses, which list existing ones, and the places
of a transition are ends of arcs (`Net.Consistent.guarded_step?`).

The table of reservations takes the place of a list. They agree throughout an arbitration
(`Guarded.Choice.Agrees`).
-/

set_option autoImplicit false

namespace EventNet

open EventNet.Random (WordSource)

/-! ## The operations -/

namespace Guarded

/-- The places of a transition. -/
def preset (net : Net) (transition : TransitionId) : Option Preset := do
  let arcs ← arcsOf net transition
  return Preset.ofArcs arcs

/-- An engine looks up the places of all transitions. -/
def engine (net : Net) : Option Engine := do
  let presets ← (List.range net.transitions.length).mapM (preset net)
  return { net, presets := presets.toArray }

/-- The mark of a place. -/
def mark (marking : Marking) (place : PlaceId) : Option Bool := marking.marks[place]?

/-- The marking with another value for a place, which must be there. -/
def setMark (value : Bool) (marking : Marking) (place : PlaceId) : Option Marking := do
  let _ ← marking.marks[place]?
  return marking.set place value

/-- Whether a marking has the tokens that are asked for. Inhibiting places are looked at
only if it has. -/
def holds (preset : Preset) (marking : Marking) : Option Bool := do
  if ← (preset.consumed ++ preset.catalysts).allM (mark marking) then
    let inhibited ← preset.inhibitors.anyM (mark marking)
    return !inhibited
  else return false

/-- Whether a transition may happen. -/
def isEnabled (engine : Engine) (marking : Marking) (fired : FiredSources)
    (transition : TransitionId) : Option Bool := do
  let preset ← engine.presets[transition]?
  if preset.isSource && fired.contains transition then return false
  else holds preset marking

/-- A bus, if one of its instances may happen. -/
def enabledBus? (engine : Engine) (marking : Marking) (fired : FiredSources)
    (entry : String × List TransitionId) : Option (Option EnabledBus) := do
  let instances ← entry.2.filterM (isEnabled engine marking fired)
  return if instances.isEmpty then none else some { label := entry.1, instances }

/-- All buses with a transition that may happen. -/
def enabledBuses (engine : Engine) (marking : Marking) (fired : FiredSources) :
    Option (List EnabledBus) := do
  let buses ← engine.net.buses.entries.mapM (enabledBus? engine marking fired)
  return buses.filterMap id

/-- Whether nothing may happen. -/
def isQuiescent (engine : Engine) (marking : Marking) (fired : FiredSources) : Option Bool := do
  let active ← (List.range engine.net.transitions.length).anyM (isEnabled engine marking fired)
  return !active

/-- An arbitration with its table of reservations. -/
structure Choice where
  arbitration : Arbitration
  /-- Which places accepted instances consume, by position. -/
  reserved : Marking

/-- Accepts an instance of a bus, or passes it over. The table decides. -/
def consider (engine : Engine) (label : String) (choice : Choice) (transition : TransitionId) :
    Option Choice := do
  let preset ← engine.presets[transition]?
  let arbitration := choice.arbitration
  if ← preset.consumed.anyM (mark choice.reserved) then
    return { choice with
      arbitration := { arbitration with
        displaced := arbitration.displaced ++ [(transition, label)] } }
  else
    let reserved ← preset.consumed.foldlM (setMark true) choice.reserved
    return {
      arbitration := { arbitration with
        step := { arbitration.step with
          instances := arbitration.step.instances ++ [transition] }
        reserved := preset.consumed ++ arbitration.reserved }
      reserved }

/-- Goes through the instances of a bus. -/
def considerBus (engine : Engine) (choice : Choice) (bus : EnabledBus) : Option Choice := do
  let after ← bus.instances.foldlM (consider engine bus.label) choice
  let step := after.arbitration.step
  if choice.arbitration.step.instances.length < step.instances.length then
    return { after with
      arbitration := { after.arbitration with
        step := { step with labels := step.labels ++ [bus.label] } } }
  else return after

/-- Chooses among the instances of buses. At first no place is reserved. -/
def arbitrate (engine : Engine) (buses : List EnabledBus) : Option Arbitration := do
  let unreserved : Marking := ⟨List.replicate engine.net.places.length false⟩
  let choice ← buses.foldlM (considerBus engine) { arbitration := {}, reserved := unreserved }
  return choice.arbitration

/-- The marking after instances have happened together. -/
def apply (engine : Engine) (instances : List TransitionId) (marking : Marking) :
    Option Marking := do
  let presets ← instances.mapM fun transition => engine.presets[transition]?
  let cleared ← (presets.flatMap Preset.consumed).foldlM (setMark false) marking
  (presets.flatMap Preset.produced).foldlM (setMark true) cleared

/-- The fired sources after instances have happened. -/
def recordSources (engine : Engine) (instances : List TransitionId) (fired : FiredSources) :
    Option FiredSources := do
  let sources ← instances.filterM fun transition => engine.presets[transition]?.map Preset.isSource
  return sources.foldl FiredSources.insert fired

/-- One step. -/
def step? {σ : Type} [WordSource σ] (engine : Engine) (preferred : Option String)
    (state : RunState) (source : σ) : Option (Option (Arbitration × RunState × σ)) := do
  let buses ← enabledBuses engine state.marking state.fired
  if buses.isEmpty then return none
  else
    let (shuffled, source) := Random.shuffle buses source
    let arbitration ← arbitrate engine (preferring preferred shuffled)
    let marking ← apply engine arbitration.step.instances state.marking
    let fired ← recordSources engine arbitration.step.instances state.fired
    return some (arbitration, { marking, fired }, source)

/-! ## Marks -/

theorem mark_eq_some {marking : Marking} {place : PlaceId}
    (inside : place < marking.marks.length) :
    mark marking place = some (marking.isMarked place) := by
  simp [mark, Marking.isMarked, inside]

theorem setMark_eq_some {marking : Marking} {place : PlaceId} {value : Bool}
    (inside : place < marking.marks.length) :
    setMark value marking place = some (marking.set place value) := by
  simp [setMark, inside]

/-- Setting marks one after another. The size stays the same, so every place is still
there when its turn comes. -/
theorem foldlM_setMark {places : List PlaceId} {marking : Marking} {value : Bool}
    (inside : ∀ place ∈ places, place < marking.marks.length) :
    places.foldlM (setMark value) marking =
      some (places.foldl (fun marking place => marking.set place value) marking) := by
  induction places generalizing marking with
  | nil => rfl
  | cons place places ih =>
    obtain ⟨first, others⟩ := List.forall_mem_cons.1 inside
    have length : (marking.set place value).marks.length = marking.marks.length :=
      List.length_set
    rw [List.foldlM_cons, setMark_eq_some first, List.foldl_cons, Option.bind_eq_bind,
      Option.bind_some]
    exact ih (length.symm ▸ others)

/-- Looking at all tokens that are asked for, and then at the inhibiting places. -/
theorem holds_eq_some {preset : Preset} {marking : Marking}
    (asked : ∀ place ∈ preset.consumed ++ preset.catalysts, place < marking.marks.length)
    (inhibitors : ∀ place ∈ preset.inhibitors, place < marking.marks.length) :
    holds preset marking = some (preset.holds marking) := by
  have tokens := allM_eq_some fun place listed => mark_eq_some (asked place listed)
  have inhibited := anyM_eq_some fun place listed => mark_eq_some (inhibitors place listed)
  simp only [holds, tokens, inhibited, Option.bind_eq_bind, Option.bind_some, Preset.holds,
    List.all_append]
  cases preset.consumed.all marking.isMarked && preset.catalysts.all marking.isMarked <;> rfl

/-! ## The table of reservations -/

/-- The record of a choice is this arbitration, and its table has an entry for every place
that is set if the arbitration lists the place. -/
structure Choice.Agrees (net : Net) (arbitration : Arbitration) (choice : Choice) : Prop where
  arbitration_eq : choice.arbitration = arbitration
  reserved_length : choice.reserved.marks.length = net.places.length
  isMarked_reserved : ∀ place,
    choice.reserved.isMarked place = arbitration.reserved.contains place

end Guarded

namespace Net.Consistent

variable {net : Net} (consistent : net.Consistent)
include consistent

/-! ## What an engine looks up -/

theorem guarded_engine : Guarded.engine net = some (Engine.ofNet net) := by
  have found : ∀ transition ∈ List.range net.transitions.length,
      Guarded.preset net transition = some (Preset.ofArcs (net.arcsOf transition)) := by
    intro transition listed
    rw [Guarded.preset, consistent.guarded_arcsOf (List.mem_range.1 listed)]
    rfl
  rw [Guarded.engine, Guarded.mapM_eq_some found]
  rfl

omit consistent in
/-- There are places for every transition. -/
theorem guarded_preset {transition : TransitionId} (inside : transition < net.transitions.length) :
    (Engine.ofNet net).presets[transition]? = some ((Engine.ofNet net).preset transition) := by
  simp [Engine.preset, Engine.ofNet, inside]

/-- The places at a transition exist. -/
theorem place_inside {transition : TransitionId} {place : PlaceId} :
    place ∈ ((Engine.ofNet net).preset transition).consumed ∨
      place ∈ ((Engine.ofNet net).preset transition).catalysts ∨
      place ∈ ((Engine.ofNet net).preset transition).inhibitors ∨
      place ∈ ((Engine.ofNet net).preset transition).produced → place < net.places.length := by
  rw [consistent.mem_consumed, consistent.mem_catalysts, consistent.mem_inhibitors,
    consistent.mem_produced]
  rintro (arc | arc | arc | arc) <;> exact (consistent.lt_of_hasArc arc).2

section Enabled

variable {marking : Marking} (sized : marking.marks.length = net.places.length)
variable (fired : FiredSources)
include sized

theorem guarded_isEnabled {transition : TransitionId}
    (inside : transition < net.transitions.length) :
    Guarded.isEnabled (Engine.ofNet net) marking fired transition =
      some ((Engine.ofNet net).isEnabled marking fired transition) := by
  have holds : Guarded.holds ((Engine.ofNet net).preset transition) marking =
      some (((Engine.ofNet net).preset transition).holds marking) := by
    refine Guarded.holds_eq_some (fun place listed => ?_) fun place listed => ?_
    · rw [sized]
      rcases List.mem_append.1 listed with consumed | catalyst
      · exact consistent.place_inside (.inl consumed)
      · exact consistent.place_inside (.inr (.inl catalyst))
    · rw [sized]
      exact consistent.place_inside (.inr (.inr (.inl listed)))
  simp only [Guarded.isEnabled, guarded_preset inside, Option.bind_eq_bind, Option.bind_some,
    holds, Engine.isEnabled]
  cases ((Engine.ofNet net).preset transition).isSource && fired.contains transition <;> rfl

/-- The members of the buses are transitions of the net. -/
theorem guarded_enabledBuses :
    Guarded.enabledBuses (Engine.ofNet net) marking fired =
      some ((Engine.ofNet net).enabledBuses marking fired) := by
  have found : ∀ entry ∈ net.buses.entries,
      Guarded.enabledBus? (Engine.ofNet net) marking fired entry =
        some (let instances := entry.2.filter ((Engine.ofNet net).isEnabled marking fired)
          if instances.isEmpty then none else some { label := entry.1, instances }) := by
    intro entry listed
    have enabled := Guarded.filterM_eq_some fun transition member =>
      consistent.guarded_isEnabled sized fired
        (lt_of_nameOf? (consistent.bus_named entry listed transition member))
    simp only [Guarded.enabledBus?, enabled, Option.bind_eq_bind, Option.bind_some]
    rfl
  simp only [Guarded.enabledBuses]
  rw [show (Engine.ofNet net).net.buses.entries = net.buses.entries from rfl,
    Guarded.mapM_eq_some found, Option.bind_eq_bind, Option.bind_some, List.filterMap_map]
  rfl

theorem guarded_isQuiescent :
    Guarded.isQuiescent (Engine.ofNet net) marking fired =
      some ((Engine.ofNet net).isQuiescent marking fired) := by
  have active : (List.range net.transitions.length).anyM
      (Guarded.isEnabled (Engine.ofNet net) marking fired) = some
        ((List.range net.transitions.length).any ((Engine.ofNet net).isEnabled marking fired)) :=
    Guarded.anyM_eq_some fun transition listed =>
      consistent.guarded_isEnabled sized fired (List.mem_range.1 listed)
  simp only [Guarded.isQuiescent]
  rw [show (Engine.ofNet net).net.transitions.length = net.transitions.length from rfl, active]
  rfl

end Enabled

/-! ## Arbitration -/

section Arbitration

variable {arbitration : Arbitration} {choice : Guarded.Choice}

/-- The table and the list agree after an instance has been considered. -/
theorem agrees_consider (label : String) {transition : TransitionId}
    (inside : transition < net.transitions.length) (agrees : choice.Agrees net arbitration) :
    ∃ next, Guarded.consider (Engine.ofNet net) label choice transition = some next ∧
      next.Agrees net ((Engine.ofNet net).consider label arbitration transition) := by
  obtain ⟨rfl, length, same⟩ := agrees
  have places : ∀ place ∈ ((Engine.ofNet net).preset transition).consumed,
      place < choice.reserved.marks.length := by
    intro place listed
    rw [length]
    exact consistent.place_inside (.inl listed)
  have conflict : ((Engine.ofNet net).preset transition).consumed.anyM
      (Guarded.mark choice.reserved) = some (((Engine.ofNet net).preset transition).consumed.any
        choice.arbitration.reserved.contains) := by
    refine Guarded.anyM_eq_some fun place listed => ?_
    rw [Guarded.mark_eq_some (places place listed), same]
  simp only [Guarded.consider, guarded_preset inside, conflict, Option.bind_eq_bind,
    Option.bind_some, Engine.consider]
  split
  · exact ⟨_, rfl, rfl, length, same⟩
  · rw [Guarded.foldlM_setMark places]
    refine ⟨_, rfl, rfl, Marking.length_foldl_set.trans length, fun place => ?_⟩
    rw [Marking.isMarked_foldl_set, same, List.contains_eq_mem, List.contains_eq_mem]
    by_cases reserved : place ∈ ((Engine.ofNet net).preset transition).consumed
    · simp [reserved, places place reserved]
    · simp [reserved]

theorem agrees_considerBus {bus : EnabledBus}
    (inside : ∀ transition ∈ bus.instances, transition < net.transitions.length)
    (agrees : choice.Agrees net arbitration) :
    ∃ next, Guarded.considerBus (Engine.ofNet net) choice bus = some next ∧
      next.Agrees net ((Engine.ofNet net).considerBus arbitration bus) := by
  have considered : ∀ (arbitration : Arbitration) (choice : Guarded.Choice),
      choice.Agrees net arbitration → ∀ transition ∈ bus.instances,
        ∃ next, Guarded.consider (Engine.ofNet net) bus.label choice transition = some next ∧
          next.Agrees net ((Engine.ofNet net).consider bus.label arbitration transition) :=
    fun _ _ agrees transition listed =>
      consistent.agrees_consider bus.label (inside transition listed) agrees
  obtain ⟨after, gone, recorded, length, same⟩ := Guarded.foldlM_simulates considered agrees
  obtain ⟨rfl, -, -⟩ := agrees
  simp only [Guarded.considerBus, gone, Option.bind_eq_bind, Option.bind_some,
    Engine.considerBus, recorded]
  split
  · exact ⟨_, rfl, rfl, length, same⟩
  · exact ⟨_, rfl, recorded, length, same⟩

/-- **Arbitration stays inside the tables**, and the table of reservations decides as the
list does. -/
theorem guarded_arbitrate {buses : List EnabledBus}
    (inside : ∀ bus ∈ buses, ∀ transition ∈ bus.instances, transition < net.transitions.length) :
    Guarded.arbitrate (Engine.ofNet net) buses = some ((Engine.ofNet net).arbitrate buses) := by
  have start : Guarded.Choice.Agrees net {}
      { arbitration := {}, reserved := ⟨List.replicate net.places.length false⟩ } := by
    refine ⟨rfl, List.length_replicate, fun place => ?_⟩
    simp only [Marking.isMarked, List.getElem?_replicate]
    split <;> rfl
  have considered : ∀ (arbitration : Arbitration) (choice : Guarded.Choice),
      choice.Agrees net arbitration → ∀ bus ∈ buses,
        ∃ next, Guarded.considerBus (Engine.ofNet net) choice bus = some next ∧
          next.Agrees net ((Engine.ofNet net).considerBus arbitration bus) :=
    fun _ _ agrees bus listed => consistent.agrees_considerBus (inside bus listed) agrees
  obtain ⟨last, gone, recorded, -, -⟩ := Guarded.foldlM_simulates considered start
  rw [Guarded.arbitrate, show (Engine.ofNet net).net.places = net.places from rfl, gone,
    Engine.arbitrate, ← recorded]
  rfl

end Arbitration

/-! ## Accepted instances happen -/

section Accepted

variable {instances : List TransitionId}
variable (inside : ∀ transition ∈ instances, transition < net.transitions.length)
include inside

theorem guarded_apply {marking : Marking} (sized : marking.marks.length = net.places.length) :
    Guarded.apply (Engine.ofNet net) instances marking =
      some ((Engine.ofNet net).apply instances marking) := by
  have presets := Guarded.mapM_eq_some fun transition listed =>
    guarded_preset (inside transition listed)
  have consumed : ∀ place ∈ (instances.map (Engine.ofNet net).preset).flatMap Preset.consumed,
      place < marking.marks.length := by
    intro place listed
    simp only [List.flatMap_map, List.mem_flatMap] at listed
    obtain ⟨transition, -, atTransition⟩ := listed
    exact sized ▸ consistent.place_inside (.inl atTransition)
  have produced : ∀ place ∈ (instances.map (Engine.ofNet net).preset).flatMap Preset.produced,
      place < marking.marks.length := by
    intro place listed
    simp only [List.flatMap_map, List.mem_flatMap] at listed
    obtain ⟨transition, -, atTransition⟩ := listed
    exact sized ▸ consistent.place_inside (.inr (.inr (.inr atTransition)))
  rw [Guarded.apply, presets, Option.bind_eq_bind, Option.bind_some,
    Guarded.foldlM_setMark consumed, Option.bind_eq_bind, Option.bind_some,
    Guarded.foldlM_setMark (Marking.length_foldl_set.symm ▸ produced), Engine.apply,
    List.flatMap_map, List.flatMap_map]

omit consistent in
theorem guarded_recordSources (fired : FiredSources) :
    Guarded.recordSources (Engine.ofNet net) instances fired =
      some ((Engine.ofNet net).recordSources instances fired) := by
  have sources : instances.filterM (fun transition =>
      (Engine.ofNet net).presets[transition]?.map Preset.isSource) =
        some (instances.filter (Engine.ofNet net).isSource) := by
    refine Guarded.filterM_eq_some fun transition listed => ?_
    rw [guarded_preset (inside transition listed)]
    rfl
  rw [Guarded.recordSources, sources]
  rfl

end Accepted

/-- **A step stays inside the tables**, whatever is drawn and whichever bus is preferred. -/
theorem guarded_step? {σ : Type} [WordSource σ] {state : RunState}
    (sized : state.marking.marks.length = net.places.length) (preferred : Option String)
    (source : σ) :
    Guarded.step? (Engine.ofNet net) preferred state source =
      some ((Engine.ofNet net).step? preferred state source) := by
  simp only [Guarded.step?, consistent.guarded_enabledBuses sized, Option.bind_eq_bind,
    Option.bind_some, Engine.step?]
  split
  · rfl
  · rename_i nonempty
    have agenda := (consistent.agenda_enabledBuses state.marking state.fired).perm
      (preferring_shuffle_perm preferred _ source)
    have considered := fun bus member transition listed =>
      lt_of_nameOf? (agenda.bus_named bus member transition listed)
    have someBus := preferring_shuffle_ne_nil preferred source nonempty
    -- the accepted instances are among those considered, which are enabled
    have accepted := fun transition member =>
      ((agenda.maximalStep_arbitrate consistent someBus).instances_enabled transition member).inside
    simp only [consistent.guarded_arbitrate considered, Option.bind_some,
      consistent.guarded_apply accepted sized, guarded_recordSources accepted]
    rfl

end Net.Consistent

end EventNet
