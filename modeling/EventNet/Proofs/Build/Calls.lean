import EventNet.Builder
import EventNet.Proofs.Build.WellBuilt

/-!
# What a builder keeps to

A builder is called with labels and with statements, in any order and however faulty they
are. Beside the net it keeps a registry of labels, and the two agree: the registry lists
the names of the places in order, each with its position (`Builder.Sound`). Hence a label
that the registry does not know is a new name, and one that it knows leads to its place.

Every call leads from a sound builder to a sound one in which the older places keep their
names (`Builder.Extends`), also where a statement is reported or an arc is left out. So a
net is well built after any sequence of calls (`Builder.ofCalls_wellBuilt`), and the attempt
to add an arc, which can fail in general, never does.
-/

set_option autoImplicit false

namespace EventNet

namespace Builder

/-- What a builder can be asked for. -/
inductive Call where
  /-- The place of a label, which is taken as it stands. -/
  | place (label : String)
  /-- To take in a statement, which is at some position. -/
  | push (index : Nat) (statement : Statement)

/-- The builder after a call. -/
def perform (builder : Builder) : Call → Builder
  | .place label => (builder.place label).2
  | .push index statement => builder.push index statement

/-- The builder after calls, one after another, from nothing. -/
def ofCalls (calls : List Call) : Builder := calls.foldl perform {}

/-- The net of a builder is in order, its registry agrees with it, and no call has failed
within. -/
structure Sound (builder : Builder) : Prop where
  consistent : builder.net.Consistent
  wellBuilt : builder.net.WellBuilt
  /-- The registry lists the names of the places with their positions. -/
  registry_eq : builder.registry.entries = (builder.net.places.map Place.name).zipIdx
  /-- Failures of the builder itself are logged as errors. -/
  quiet : ∀ record ∈ builder.log, record.level ≠ .error

/-- A sound builder that came from another, in which nothing has been taken away. -/
structure Extends (before after : Builder) : Prop where
  sound : after.Sound
  names_prefix : before.net.places.map Place.name <+: after.net.places.map Place.name
  transitions_le : before.net.transitions.length ≤ after.net.transitions.length

namespace Extends

variable {first second third : Builder}

theorem refl (sound : first.Sound) : first.Extends first :=
  ⟨sound, List.prefix_rfl, Nat.le_refl _⟩

theorem trans (start : first.Extends second) (further : second.Extends third) :
    first.Extends third :=
  ⟨further.sound, start.names_prefix.trans further.names_prefix,
    start.transitions_le.trans further.transitions_le⟩

/-- A place keeps its name. -/
theorem placeName? (extension : first.Extends second) {place : PlaceId} {name : String}
    (named : first.net.placeName? place = some name) : second.net.placeName? place = some name := by
  obtain ⟨more, grown⟩ := extension.names_prefix
  rw [Net.placeName?, ← List.getElem?_map] at named ⊢
  rw [← grown]
  exact getElem?_append_of_eq_some named

end Extends

/-- Nothing is in the way of an arc that no arc of the table contradicts. -/
theorem conflictingKind?_eq_none_iff {net : Net} (consistent : net.Consistent) {place : PlaceId}
    {transition : TransitionId} {kind : ArcKind} :
    conflictingKind? net place transition kind = none ↔
      ∀ other, net.HasArc other transition place → contradicts other kind = false := by
  simp only [conflictingKind?, Option.map_eq_none_iff, List.find?_eq_none, consistent.mem_arcsOf]
  constructor
  · intro none other arc
    simpa using none _ ⟨arc, rfl⟩
  · rintro free ⟨at_, _, other⟩ ⟨arc, rfl⟩
    by_cases here : at_ = place
    · subst here
      simp [free other arc]
    · simp [here]

namespace Sound

variable {builder : Builder} (sound : builder.Sound)

/-- Steps that extend sound builders extend them together. -/
theorem extends_foldl {α : Type} {step : Builder → α → Builder}
    (extends_step : ∀ {builder : Builder} (item : α), builder.Sound →
      builder.Extends (step builder item))
    {builder : Builder} (sound : builder.Sound) (items : List α) :
    builder.Extends (items.foldl step builder) := by
  induction items generalizing builder with
  | nil => exact .refl sound
  | cons item items ih =>
    have extension := extends_step item sound
    rw [List.foldl_cons]
    exact extension.trans (ih extension.sound)

include sound

/-! ## Places -/

/-- The registry leads to the place with the name. -/
theorem placeName?_of_find? {label : String} {place : PlaceId}
    (found : builder.registry.find? label = some place) :
    builder.net.placeName? place = some label := by
  have listed := LabelMap.mem_of_find? found
  rw [sound.registry_eq, List.mem_zipIdx_iff_getElem?, List.getElem?_map] at listed
  exact listed

/-- A label that the registry does not know is no name of a place. -/
theorem fresh_of_find? {label : String} (unknown : builder.registry.find? label = none) :
    label ∉ builder.net.places.map Place.name := by
  have keys : builder.registry.keys = builder.net.places.map Place.name := by
    rw [LabelMap.keys, sound.registry_eq, List.zipIdx_map_fst]
  rw [← keys]
  exact LabelMap.find?_eq_none_iff.1 unknown

/-- **A label leads to the place of its name**, known or new. -/
theorem placeName?_place (label : String) :
    (builder.place label).2.net.placeName? (builder.place label).1 = some label := by
  unfold Builder.place
  split
  · rename_i id found
    exact sound.placeName?_of_find? found
  · simp [Net.addPlace, Net.placeName?]

theorem extends_place (label : String) : builder.Extends (builder.place label).2 := by
  unfold Builder.place
  split
  · exact .refl sound
  · rename_i unknown
    have fresh := sound.fresh_of_find? unknown
    have registered : (builder.registry.insert label builder.net.places.length).entries =
        builder.registry.entries ++ [(label, builder.net.places.length)] :=
      LabelMap.upsertEntries_of_fresh _ (LabelMap.find?_eq_none_iff.1 unknown)
    refine ⟨⟨sound.consistent.addPlace _, sound.wellBuilt.addPlace fresh, ?_, sound.quiet⟩,
      ?_, Nat.le_refl _⟩
    · refine registered.trans ?_
      simp [sound.registry_eq, Net.addPlace, List.zipIdx_append]
    · simp only [Net.addPlace, List.map_append]
      exact List.prefix_append _ _

/-- A report changes the errors and the log only. -/
theorem extends_report (index : Nat) (fault : BuildFault) :
    builder.Extends (builder.report index fault) := by
  refine ⟨⟨sound.consistent, sound.wellBuilt, sound.registry_eq, ?_⟩, List.prefix_rfl,
    Nat.le_refl _⟩
  intro record listed
  rcases List.mem_append.1 listed with old | new
  · exact sound.quiet record old
  · rw [List.mem_singleton.1 new]
    exact Level.noConfusion

/-- A label is blank and reported, or its place is named after it. -/
theorem extends_placeOf? (index : Nat) (label : String) :
    builder.Extends (builder.placeOf? index label).2 ∧
      ∀ place, (builder.placeOf? index label).1 = some place →
        (builder.placeOf? index label).2.net.placeName? place = some (Text.trim label) := by
  unfold placeOf?
  dsimp only
  split
  · exact ⟨sound.extends_report index .emptyLabel, fun place => nofun⟩
  · refine ⟨sound.extends_place _, fun place same => ?_⟩
    cases same
    exact sound.placeName?_place _

/-! ## Facts -/

theorem extends_pushFact (index : Nat) (label : String) :
    builder.Extends (pushFact index builder label) := by
  have looked := (sound.extends_placeOf? index label).1
  unfold pushFact
  split
  · rename_i same
    rwa [same] at looked
  · rename_i place after same
    rw [same] at looked
    refine looked.trans ?_
    have names : (after.net.places.modify place fun entry =>
        { entry with factual := true }).map Place.name = after.net.places.map Place.name := by
      refine map_modify_of_eq ?_ _ _
      exact fun _ => rfl
    refine ⟨⟨looked.sound.consistent.withPlaces (List.length_modify _ _ _),
      looked.sound.wellBuilt.withPlaces ?_, ?_, looked.sound.quiet⟩, ?_, Nat.le_refl _⟩
    · rw [names]
      exact looked.sound.wellBuilt.place_names_nodup
    · rw [names]
      exact looked.sound.registry_eq
    · simp only [names, List.prefix_rfl]

/-! ## Clauses -/

theorem extends_pushMention (index : Nat) (arc : ArcKind × String) :
    builder.Extends (pushMention index builder arc) :=
  (sound.extends_placeOf? index arc.2).1

theorem extends_pushInstance (index : Nat) (label : String) :
    builder.Extends (builder.pushInstance index label).2 := by
  refine ⟨⟨sound.consistent.addTransition label,
    sound.wellBuilt.addTransition sound.consistent label, sound.registry_eq, ?_⟩,
    List.prefix_rfl, ?_⟩
  · intro record listed
    rcases List.mem_append.1 listed with old | new
    · exact sound.quiet record old
    · rw [List.mem_singleton.1 new]
      exact Level.noConfusion
  · simp [pushInstance, Net.addTransition]

/-- An arc in whose way nothing stands contradicts no arc of the table. -/
theorem agrees_of_conflictingKind? {place : PlaceId} {transition : TransitionId}
    {kind : ArcKind} (none : conflictingKind? builder.net place transition kind = none)
    (other : ArcKind) (arc : builder.net.HasArc other transition place)
    (takes : other ≠ .produce) (kindTakes : kind ≠ .produce) : other = kind := by
  have free := (conflictingKind?_eq_none_iff sound.consistent).1 none other arc
  simpa [contradicts, takes, kindTakes] using free

/-- The arc between nodes of a sound builder, whether it is new or not. -/
theorem extends_addArc {place : PlaceId} {transition : TransitionId} {kind : ArcKind}
    (inPlaces : place < builder.net.places.length)
    (inTransitions : transition < builder.net.transitions.length)
    (free : conflictingKind? builder.net place transition kind = none) :
    ∃ id net, builder.net.addArc place transition kind = .ok (id, net) ∧
      builder.Extends { builder with net } := by
  cases search : builder.net.findArc? place transition kind with
  | some existing =>
    exact ⟨existing, builder.net,
      Net.addArc_eq_ok_iff.2 ⟨inPlaces, inTransitions, .inl ⟨search, rfl⟩⟩, .refl sound⟩
  | none =>
    have absent := sound.consistent.findArc?_eq_none_iff.1 search
    refine ⟨_, _, Net.addArc_eq_ok_iff.2 ⟨inPlaces, inTransitions, .inr ⟨search, rfl, rfl⟩⟩,
      ⟨⟨sound.consistent.appendArc inTransitions inPlaces,
        sound.wellBuilt.appendArc sound.consistent absent
          (sound.agrees_of_conflictingKind? free), sound.registry_eq, sound.quiet⟩,
        List.prefix_rfl, ?_⟩⟩
    exact Nat.le_of_eq (List.length_modify _ _ _).symm

theorem extends_pushArc (index : Nat) (label : String) {transition : TransitionId}
    (inTransitions : transition < builder.net.transitions.length) (arc : ArcKind × String) :
    builder.Extends (pushArc index label transition builder arc) := by
  obtain ⟨looked, named⟩ := sound.extends_placeOf? index arc.2
  unfold pushArc
  split
  · rename_i same
    rwa [same] at looked
  · rename_i place after same
    rw [same] at looked named
    refine looked.trans ?_
    split
    · exact looked.sound.extends_report _ _
    · rename_i free
      have inPlaces := Net.lt_of_placeName? (named place rfl)
      obtain ⟨id, net, added, extension⟩ := looked.sound.extends_addArc inPlaces
        (Nat.lt_of_lt_of_le inTransitions looked.transitions_le) free
      rw [added]
      exact extension

/-- The arcs of a clause are added one after another to its transition, which stays. -/
theorem extends_foldl_pushArc (index : Nat) (label : String) {transition : TransitionId}
    (inTransitions : transition < builder.net.transitions.length)
    (arcs : List (ArcKind × String)) :
    builder.Extends (arcs.foldl (pushArc index label transition) builder) := by
  induction arcs generalizing builder with
  | nil => exact .refl sound
  | cons arc arcs ih =>
    have extension := sound.extends_pushArc index label inTransitions arc
    rw [List.foldl_cons]
    exact extension.trans
      (ih extension.sound (Nat.lt_of_lt_of_le inTransitions extension.transitions_le))

/-! ## Calls -/

/-- **A statement leads from a sound builder to a sound one**, however faulty it is. -/
theorem extends_push (index : Nat) (statement : Statement) :
    builder.Extends (builder.push index statement) := by
  unfold push
  split
  · exact sound.extends_report index .emptyStatement
  · exact extends_foldl (fun label sound => sound.extends_pushFact index label) sound _
  · dsimp only
    split
    · rename_i transition arcs _
      have mentioned : builder.Extends (arcs.foldl (pushMention index) builder) :=
        extends_foldl (fun arc sound => sound.extends_pushMention index arc) sound arcs
      exact mentioned.trans (mentioned.sound.extends_report index .missingTransition)
    · rename_i transition arcs _
      have extension := sound.extends_pushInstance index (Text.trim transition)
      have inTransitions : builder.net.transitions.length <
          (builder.pushInstance index (Text.trim transition)).2.net.transitions.length := by
        simp [pushInstance, Net.addTransition]
      exact extension.trans (extension.sound.extends_foldl_pushArc index _ inTransitions arcs)

theorem extends_perform (call : Call) : builder.Extends (builder.perform call) := by
  cases call with
  | place label => exact sound.extends_place label
  | push index statement => exact sound.extends_push index statement

/-- What calls have led to is extended by further calls. -/
theorem extends_calls (calls : List Call) : builder.Extends (calls.foldl perform builder) :=
  extends_foldl (fun call sound => sound.extends_perform call) sound calls

end Sound

theorem sound_empty : ({} : Builder).Sound where
  consistent := .empty
  wellBuilt := .empty
  registry_eq := rfl
  quiet := by simp

theorem sound_ofCalls (calls : List Call) : (ofCalls calls).Sound :=
  (sound_empty.extends_calls calls).sound

/-- **A net is well built after any calls**: it is valid, its tables hold nothing twice, its
indices ascend and its buses are the transitions grouped by name. A label always leads to
the place that has it as its name, also when the net has grown further. No attempt to add
an arc fails, which would be logged as an error. -/
theorem ofCalls_wellBuilt (calls : List Call) :
    (ofCalls calls).net.validate = .ok () ∧ (ofCalls calls).net.WellBuilt ∧
      (∀ bus ∈ (ofCalls calls).net.buses.entries,
        bus.2 = (List.range (ofCalls calls).net.transitions.length).filter fun transition =>
          (ofCalls calls).net.nameOf? transition == some bus.1) ∧
      (∀ (label : String) (later : List Call),
        (ofCalls (calls ++ .place label :: later)).net.placeName?
          ((ofCalls calls).place label).1 = some label) ∧
      ∀ record ∈ (ofCalls calls).finalLog, record.level ≠ .error := by
  have sound := sound_ofCalls calls
  refine ⟨Net.validate_eq_ok_iff.2 sound.consistent, sound.wellBuilt,
    fun bus listed => sound.wellBuilt.bus_eq sound.consistent listed, ?_, ?_⟩
  · intro label later
    have placed := sound.extends_place label
    rw [ofCalls, List.foldl_append, List.foldl_cons]
    exact (placed.sound.extends_calls later).placeName? (sound.placeName?_place label)
  · intro record listed
    rcases List.mem_append.1 listed with made | closing
    · exact sound.quiet record made
    · rw [List.mem_singleton.1 closing]
      exact Level.noConfusion

/-- Calls with blank, untrimmed, repeated and contradictory labels, and with statements that
say too little. -/
def unruly : List Call :=
  [.place " a", .push 3 (.clause " t " [(.consume, "a"), (.inhibit, "a "), (.produce, "a"),
      (.catalyst, " ")]),
    .push 0 (.clause "" [(.produce, "b")]), .push 1 (.factual ["a", ""]), .push 1 (.factual []),
    .push 7 (.clause "u" [(.produce, "b")]),
    .push 7 (.clause "t" [(.produce, "b"), (.produce, "b")])]

/-- The faulty calls make three places, with arcs on two of them, and a bus of two
transitions. -/
theorem unruly_wellBuilt :
    (ofCalls unruly).net.arcs = [⟨1, 0, .consume⟩, ⟨1, 0, .produce⟩, ⟨2, 1, .produce⟩,
        ⟨2, 2, .produce⟩] ∧
      (("t", [0, 2]) : String × List TransitionId) ∈ (ofCalls unruly).net.buses.entries ∧
      (LogRecord.debug "statement 8: new instance t2 of bus 'u'") ∈ (ofCalls unruly).finalLog ∧
      (ofCalls unruly).net.validate = .ok () ∧ (ofCalls unruly).net.WellBuilt ∧
      (∀ bus ∈ (ofCalls unruly).net.buses.entries,
        bus.2 = (List.range (ofCalls unruly).net.transitions.length).filter fun transition =>
          (ofCalls unruly).net.nameOf? transition == some bus.1) ∧
      (∀ (label : String) (later : List Call),
        (ofCalls (unruly ++ .place label :: later)).net.placeName?
          ((ofCalls unruly).place label).1 = some label) ∧
      ∀ record ∈ (ofCalls unruly).finalLog, record.level ≠ .error := by
  have arcs : (ofCalls unruly).net.arcs = [⟨1, 0, .consume⟩, ⟨1, 0, .produce⟩,
      ⟨2, 1, .produce⟩, ⟨2, 2, .produce⟩] := by decide +kernel
  have bus : (("t", [0, 2]) : String × List TransitionId) ∈
      (ofCalls unruly).net.buses.entries := by decide +kernel
  have record : (LogRecord.debug "statement 8: new instance t2 of bus 'u'") ∈
      (ofCalls unruly).finalLog := by decide +kernel
  exact ⟨arcs, bus, record, ofCalls_wellBuilt unruly⟩

end Builder

end EventNet
