import EventNet.Proofs.Net.Growth

/-!
# Building a net call by call

Whoever builds a net has it changed in place, by one call after another for a place, a
transition or an arc. A call for an arc may fail, and then the net must be what it was before
(`putArc`). It does what `Net.addArc` says (`run_putArc`), which gives no net where it fails.

A call keeps a net consistent (`Consistent.after`). In a consistent net the search for an arc
looks through one index only and finds every arc of the table (`Consistent.isSome_findArc?_iff`),
so that a call for an arc that is there changes nothing (`Consistent.answersArc`) and no arc is
ever put in twice (`Consistent.count_after_le`). All this holds after any calls
(`growth_consistent`).
-/

set_option autoImplicit false

namespace EventNet

/-- A call that makes a net larger. -/
inductive Growth where
  | place (place : Place)
  | transition (name : String)
  | arc (place : PlaceId) (transition : TransitionId) (kind : ArcKind)

namespace Net

/-! ## Calls -/

/-- Puts a place into a net. -/
def putPlace (place : Place) : ExceptT NetError (StateM Net) PlaceId :=
  modifyGet fun net => net.addPlace place

/-- Puts a transition without arcs into a net. -/
def putTransition (name : String) : ExceptT NetError (StateM Net) TransitionId :=
  modifyGet fun net => net.addTransition name

/-- Enters a new arc into the arc table, then into the index of its transition and then into
that of its place. -/
def enterArc (arc : Arc) : StateM Net ArcId := do
  let id := (← get).arcs.length
  modify fun net => { net with arcs := net.arcs ++ [arc] }
  modify fun net =>
    { net with transitions := net.transitions.modify arc.transition fun entry =>
        { entry with arcs := entry.arcs ++ [id] } }
  modify fun net =>
    { net with placeArcs := net.placeArcs.modify arc.place fun index => index ++ [id] }
  return id

/-- Puts an arc into a net, unless it is there already. -/
def putArc (place : PlaceId) (transition : TransitionId) (kind : ArcKind) :
    ExceptT NetError (StateM Net) ArcId := do
  let net ← get
  if net.places.length ≤ place then throw (.danglingPlace place)
  else if net.transitions.length ≤ transition then throw (.danglingTransition transition)
  else
    match net.findArc? place transition kind with
    | some existing => return existing
    | none => enterArc { place, transition, kind }

/-- Answers a call with the identifier of what it asks for. -/
def answer : Growth → ExceptT NetError (StateM Net) Nat
  | .place place => putPlace place
  | .transition name => putTransition name
  | .arc place transition kind => putArc place transition kind

/-- The net behind a call, be it answered or not. -/
def after (net : Net) (call : Growth) : Net := ((answer call).run.run net).2

theorem run_enterArc (net : Net) (arc : Arc) :
    (enterArc arc).run net = (net.arcs.length, net.appendArc arc) := rfl

/-- **A call for an arc does what adding it says**, and where that fails, the net stays. -/
theorem run_putArc (net : Net) (place : PlaceId) (transition : TransitionId) (kind : ArcKind) :
    (putArc place transition kind).run.run net =
      match net.addArc place transition kind with
      | .error error => (.error error, net)
      | .ok (id, next) => (.ok id, next) := by
  unfold putArc
  show StateT.run (ExceptT.run (ite _ _ _)) net = _
  unfold addArc
  split
  · rfl
  · split
    · rfl
    · cases net.findArc? place transition kind with
      | some existing => rfl
      | none =>
        show Prod.map Except.ok id ((enterArc { place, transition, kind }).run net) = _
        rw [run_enterArc]
        rfl

/-! ## Calls for arcs -/

/-- **When adding an arc fails**: a missing place is told before a missing transition. -/
theorem addArc_eq_error_iff {net : Net} {place : PlaceId} {transition : TransitionId}
    {kind : ArcKind} {error : NetError} :
    net.addArc place transition kind = .error error ↔
      ¬place < net.places.length ∧ error = .danglingPlace place ∨
        place < net.places.length ∧ ¬transition < net.transitions.length ∧
          error = .danglingTransition transition := by
  unfold addArc
  by_cases inPlaces : place < net.places.length
  · by_cases inTransitions : transition < net.transitions.length
    · rw [if_neg (Nat.not_le.2 inPlaces), if_neg (Nat.not_le.2 inTransitions)]
      cases net.findArc? place transition kind <;> simp [inPlaces, inTransitions]
    · simp [inPlaces, Nat.not_le.2 inPlaces, inTransitions, Nat.not_lt.1 inTransitions, eq_comm]
  · simp [inPlaces, Nat.not_lt.1 inPlaces, eq_comm]

/-- The net has one more arc than another one, at the end of the arc table and of the indices of
its transition and its place. All else is the same. -/
structure HasNewArc (next net : Net) (arc : Arc) : Prop where
  places_eq : next.places = net.places
  transitions_eq : ∀ id : TransitionId, next.transitions[id]? =
    (net.transitions[id]?).map fun entry =>
      if id = arc.transition then { entry with arcs := entry.arcs ++ [net.arcs.length] } else entry
  arcs_eq : next.arcs = net.arcs ++ [arc]
  placeArcs_eq : ∀ id : PlaceId, next.placeArcs[id]? =
    (net.placeArcs[id]?).map fun index =>
      if id = arc.place then index ++ [net.arcs.length] else index
  buses_eq : next.buses = net.buses

theorem hasNewArc_appendArc (net : Net) (arc : Arc) : (net.appendArc arc).HasNewArc net arc := by
  refine ⟨rfl, fun id => ?_, rfl, fun id => ?_, rfl⟩
  · simp only [appendArc, List.getElem?_modify, Option.map_eq_map, eq_comm]
  · simp only [appendArc, List.getElem?_modify, Option.map_eq_map, eq_comm]

/-- What has to come of a call for an arc in a net: the answer, and the net behind the call. -/
structure AnswersArc (net : Net) (arc : Arc) (result : Except NetError ArcId × Net) : Prop where
  /-- The call fails exactly if an end of the arc does not exist. -/
  fails_iff : (∃ error, result.1 = .error error) ↔
    ¬arc.place < net.places.length ∨ ¬arc.transition < net.transitions.length
  /-- A missing place is told before a missing transition, and the net stays. -/
  failed : ∀ error, result.1 = .error error → result.2 = net ∧
    error = if arc.place < net.places.length then .danglingTransition arc.transition
      else .danglingPlace arc.place
  /-- For an arc that is there the call gives the identifier of such an arc, and the net stays. -/
  present : arc ∈ net.arcs → ∃ id, net.arcs[id]? = some arc ∧ result = (.ok id, net)
  /-- Any other arc is entered. -/
  absent : arc ∉ net.arcs → arc.place < net.places.length →
    arc.transition < net.transitions.length →
      result.1 = .ok net.arcs.length ∧ result.2.HasNewArc net arc

namespace Consistent

variable {net : Net} (consistent : net.Consistent)
include consistent

/-- An arc that is found is the one that was looked for. -/
theorem arc_of_findArc? {place : PlaceId} {transition : TransitionId} {kind : ArcKind} {id : ArcId}
    (found : net.findArc? place transition kind = some id) :
    net.arcs[id]? = some { place, transition, kind } := by
  simp only [findArc?, Option.bind_eq_bind, Option.bind_eq_some_iff] at found
  obtain ⟨entry, atTransition, found⟩ := found
  obtain ⟨arc, atId, rfl⟩ :=
    consistent.transition_lists transition entry atTransition id (List.mem_of_find?_eq_some found)
  have same := List.find?_some found
  simp only [atId, Option.any_some, Bool.and_eq_true, beq_iff_eq] at same
  obtain ⟨rfl, rfl⟩ := same
  exact atId

/-- **The search finds an arc exactly if the arc table has it.** -/
theorem isSome_findArc?_iff (arc : Arc) :
    (net.findArc? arc.place arc.transition arc.kind).isSome ↔ arc ∈ net.arcs := by
  rw [← not_iff_not, Bool.not_eq_true, Option.isSome_eq_false_iff, Option.isNone_iff_eq_none]
  exact consistent.findArc?_eq_none_iff

theorem answersArc (arc : Arc) :
    net.AnswersArc arc ((putArc arc.place arc.transition arc.kind).run.run net) := by
  rw [run_putArc]
  cases added : net.addArc arc.place arc.transition arc.kind with
  | error error =>
    have missing := addArc_eq_error_iff.1 added
    have outside : ¬(arc.place < net.places.length ∧ arc.transition < net.transitions.length) := by
      rintro ⟨inPlaces, inTransitions⟩
      rcases missing with ⟨noPlace, -⟩ | ⟨-, noTransition, -⟩
      · exact noPlace inPlaces
      · exact noTransition inTransitions
    refine ⟨⟨fun _ => not_and_or.1 outside, fun _ => ⟨error, rfl⟩⟩, ?_, ?_, ?_⟩
    · rintro _ ⟨⟩
      refine ⟨rfl, ?_⟩
      rcases missing with ⟨noPlace, rfl⟩ | ⟨inPlaces, -, rfl⟩
      · rw [if_neg noPlace]
      · rw [if_pos inPlaces]
    · intro listed
      exact absurd (consistent.lt_of_hasArc listed).symm outside
    · intro _ inPlaces inTransitions
      exact absurd ⟨inPlaces, inTransitions⟩ outside
  | ok result =>
    obtain ⟨id, next⟩ := result
    obtain ⟨inPlaces, inTransitions, outcome⟩ := addArc_eq_ok_iff.1 added
    refine ⟨⟨?_, ?_⟩, ?_, ?_, ?_⟩
    · rintro ⟨_, ⟨⟩⟩
    · rintro (noPlace | noTransition)
      · exact absurd inPlaces noPlace
      · exact absurd inTransitions noTransition
    · rintro _ ⟨⟩
    · intro listed
      rcases outcome with ⟨found, rfl⟩ | ⟨none, -⟩
      · exact ⟨id, consistent.arc_of_findArc? found, rfl⟩
      · exact absurd listed (consistent.findArc?_eq_none_iff.1 none)
    · intro unlisted _ _
      rcases outcome with ⟨found, -⟩ | ⟨-, rfl, rfl⟩
      · exact absurd (List.mem_of_getElem? (consistent.arc_of_findArc? found)) unlisted
      · exact ⟨rfl, hasNewArc_appendArc net arc⟩

/-- **A call keeps a net consistent**, be it answered or not. -/
theorem after (call : Growth) : (net.after call).Consistent := by
  cases call with
  | place place => exact consistent.addPlace place
  | transition name => exact consistent.addTransition name
  | arc place transition kind =>
    rw [Net.after, answer, run_putArc]
    cases added : net.addArc place transition kind with
    | error error => exact consistent
    | ok result => exact consistent.addArc added

/-- **No arc is entered a second time.** -/
theorem count_after_le (call : Growth) (arc : Arc) :
    (net.after call).arcs.count arc ≤ max (net.arcs.count arc) 1 := by
  cases call with
  | place place => exact Nat.le_max_left _ _
  | transition name => exact Nat.le_max_left _ _
  | arc place transition kind =>
    rw [Net.after, answer, run_putArc]
    cases added : net.addArc place transition kind with
    | error error => exact Nat.le_max_left _ _
    | ok result =>
      obtain ⟨id, next⟩ := result
      obtain ⟨-, -, ⟨-, rfl⟩ | ⟨none, -, rfl⟩⟩ := addArc_eq_ok_iff.1 added
      · exact Nat.le_max_left _ _
      · show (net.arcs ++ [_]).count arc ≤ _
        rw [List.count_append, List.count_singleton]
        split
        · -- the arc is the new one, which the table did not have
          rename_i same
          have fresh := consistent.findArc?_eq_none_iff.1 none
          rw [← eq_of_beq same, List.count_eq_zero.2 fresh]
          exact Nat.le_refl _
        · exact Nat.le_max_left _ _

theorem foldl_after (calls : List Growth) : (calls.foldl Net.after net).Consistent := by
  induction calls generalizing net with
  | nil => exact consistent
  | cons call calls ih => exact ih (consistent.after call)

theorem count_foldl_after_le (calls : List Growth) (arc : Arc) :
    (calls.foldl Net.after net).arcs.count arc ≤ max (net.arcs.count arc) 1 := by
  induction calls generalizing net with
  | nil => exact Nat.le_max_left _ _
  | cons call calls ih =>
    have rest := ih (consistent.after call)
    have here := consistent.count_after_le call arc
    rw [List.foldl_cons]
    omega

end Consistent

/-- **A net that grows stays consistent**, whatever calls there are. In the net behind them a
call for an arc is answered as it should be, the search for an arc finds exactly the arcs of the
table, and no arc is there more often than it was at the start, or than once. -/
theorem growth_consistent {net : Net} (valid : net.validate = .ok ()) (calls : List Growth) :
    let grown := calls.foldl after net
    grown.validate = .ok () ∧
      (∀ arc : Arc,
        grown.AnswersArc arc ((putArc arc.place arc.transition arc.kind).run.run grown)) ∧
      (∀ arc : Arc,
        ((grown.findArc? arc.place arc.transition arc.kind).isSome ↔ arc ∈ grown.arcs) ∧
          ∀ id, grown.findArc? arc.place arc.transition arc.kind = some id →
            grown.arcs[id]? = some arc) ∧
      ∀ arc : Arc, grown.arcs.count arc ≤ max (net.arcs.count arc) 1 := by
  have consistent := validate_eq_ok_iff.1 valid
  have grown := consistent.foldl_after calls
  refine ⟨validate_eq_ok_iff.2 grown, grown.answersArc, fun arc => ⟨?_, fun id found => ?_⟩, ?_⟩
  · exact grown.isSome_findArc?_iff arc
  · exact grown.arc_of_findArc? found
  · exact consistent.count_foldl_after_le calls

/-- The rivals grow by a place, by a further instance of a bus and by an arc between them that is
asked for twice. The calls for arcs to missing nodes change nothing. -/
theorem rivals_grow :
    let calls : List Growth :=
      [.arc 2 0 .consume, .place { name := "r" }, .arc 2 4 .inhibit, .transition "left",
        .arc 2 4 .inhibit, .arc 0 0 .consume, .arc 2 4 .inhibit]
    let grown := calls.foldl after rivals
    grown.arcs = rivals.arcs ++ [⟨2, 4, .inhibit⟩] ∧ grown.bus "left" = [0, 2, 4] ∧
      grown.validate = .ok () ∧
      (∀ arc : Arc,
        grown.AnswersArc arc ((putArc arc.place arc.transition arc.kind).run.run grown)) ∧
      (∀ arc : Arc,
        ((grown.findArc? arc.place arc.transition arc.kind).isSome ↔ arc ∈ grown.arcs) ∧
          ∀ id, grown.findArc? arc.place arc.transition arc.kind = some id →
            grown.arcs[id]? = some arc) ∧
      ∀ arc : Arc, grown.arcs.count arc ≤ max (rivals.arcs.count arc) 1 := by
  intro calls grown
  exact ⟨by decide +kernel, by decide +kernel, growth_consistent rivals_validate calls⟩

end Net

end EventNet
