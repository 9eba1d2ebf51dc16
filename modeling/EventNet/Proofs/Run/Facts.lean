import EventNet.Proofs.Build.Holds
import EventNet.Proofs.Run.Correspondence
import EventNet.Proofs.Run.Trace

/-!
# Where facts are written

Facts may stand anywhere among the statements that a net is built from. If they are moved
about while the clauses keep their order (`MovesFacts`), the net has its places in another
order, but it has the same instances with the same arcs, and the same places are facts
(`MovesFacts.agree`).

Two nets with contents that agree in this way correspond, every place paired with the one of
its name (`Builder.Holds.corresponds`), and snapshots of corresponding markings say the same
of every name. Hence runs do not depend on where facts are written
(`runs_same_of_movesFacts`).
-/

set_option autoImplicit false

namespace EventNet

/-! ## Statements with facts moved about -/

/-- Whether a statement is a clause. -/
def Statement.isClause : Statement → Bool
  | factual _ => false
  | clause _ _ => true

/-- The statements are rearranged, and the clauses among them keep their order. -/
structure MovesFacts (statements others : List Statement) : Prop where
  perm : others.Perm statements
  clauses_eq : others.filter Statement.isClause = statements.filter Statement.isClause

/-- Instances are made by clauses. -/
theorem filterMap_transition? (statements : List Statement) :
    statements.filterMap Statement.transition? =
      (statements.filter Statement.isClause).filterMap Statement.transition? := by
  rw [List.filterMap_filter]
  refine List.filterMap_congr ?_
  intro statement _
  cases statement <;> rfl

/-- The same labels are mentioned and the same are facts, in whatever order, and the
instances are the same. -/
structure Contents.Agree (first second : Contents) : Prop where
  mem_mentioned : ∀ name, name ∈ first.mentioned ↔ name ∈ second.mentioned
  mem_facts : ∀ name, name ∈ first.facts ↔ name ∈ second.facts
  instances_eq : first.instances = second.instances

namespace Contents.Agree

variable {first second : Contents} (agree : first.Agree second)
include agree

theorem symm : second.Agree first :=
  ⟨fun name => (agree.mem_mentioned name).symm, fun name => (agree.mem_facts name).symm,
    agree.instances_eq.symm⟩

theorem arcs_eq : first.arcs = second.arcs := by
  rw [Contents.arcs, Contents.arcs, agree.instances_eq]

end Contents.Agree

/-- **Where facts are written does not matter to what a net contains.** -/
theorem MovesFacts.agree {statements others : List Statement}
    (moved : MovesFacts statements others) :
    (Contents.add {} statements).Agree (Contents.add {} others) := by
  refine ⟨?_, ?_, ?_⟩
  · intro name
    exact (moved.perm.flatMap_right _).mem_iff.symm
  · intro name
    exact (moved.perm.flatMap_right _).mem_iff.symm
  · simp only [Contents.add, List.nil_append]
    rw [filterMap_transition? statements, filterMap_transition? others, moved.clauses_eq]

/-! ## Buses of nets that are built -/

/-- The buses of a well built net can be read off the names of its transitions. -/
theorem Net.WellBuilt.entries_eq {net : Net} (wellBuilt : net.WellBuilt)
    (consistent : net.Consistent) :
    net.buses.entries = (net.transitions.map Transition.name).eraseDups.map fun label =>
      (label, (List.range net.transitions.length).filter fun transition =>
        net.nameOf? transition == some label) := by
  have labels : net.buses.entries.map Prod.fst = _ := wellBuilt.labels_eq
  rw [← labels, List.map_map]
  refine (List.map_id _).symm.trans (List.map_congr_left ?_)
  intro bus listed
  exact Prod.ext rfl (wellBuilt.bus_eq consistent listed)

/-- Well built nets with the same names of transitions have the same buses. -/
theorem Net.WellBuilt.buses_eq {first second : Net} (wellBuilt : first.WellBuilt)
    (consistent : first.Consistent) (wellBuiltOther : second.WellBuilt)
    (consistentOther : second.Consistent)
    (names : first.transitions.map Transition.name = second.transitions.map Transition.name) :
    first.buses = second.buses := by
  have length := congrArg List.length names
  rw [List.length_map, List.length_map] at length
  have named : first.nameOf? = second.nameOf? := by
    funext transition
    rw [nameOf?, nameOf?, ← List.getElem?_map, ← List.getElem?_map, names]
  refine LabelMap.ext ?_
  rw [wellBuilt.entries_eq consistent, wellBuiltOther.entries_eq consistentOther, names, length,
    named]

/-! ## Nets with contents that agree -/

/-- The places have the same name in the two nets. -/
def Net.SameName (first second : Net) (place partner : PlaceId) : Prop :=
  ∃ name, first.placeName? place = some name ∧ second.placeName? partner = some name

namespace Builder.Holds

variable {first second : Builder} {contents others : Contents}
variable (holds : first.Holds contents) (holdsOther : second.Holds others)
variable (agree : contents.Agree others)
include holds holdsOther agree

/-- A place has a partner of the same name. -/
theorem exists_partner {place : PlaceId} {name : String}
    (named : first.net.placeName? place = some name) :
    ∃ partner, second.net.placeName? partner = some name := by
  have known := holds.mem_names.1 (Net.mem_names_of_placeName? named)
  have mentioned := (agree.mem_mentioned name).1 known
  obtain ⟨entry, listed, rfl⟩ := List.mem_map.1 (holdsOther.mem_names.2 mentioned)
  exact Net.placeName?_of_mem listed

/-- An arc has a partner that leads to the place of the same name. -/
theorem exists_arc {kind : ArcKind} {transition : TransitionId} {place : PlaceId}
    (arc : first.net.HasArc kind transition place) :
    ∃ name partner, first.net.placeName? place = some name ∧
      second.net.placeName? partner = some name ∧ second.net.HasArc kind transition partner := by
  obtain ⟨name, named, listed⟩ := holds.hasArc_iff.1 arc
  obtain ⟨partner, namedOther⟩ := exists_partner holds holdsOther agree named
  rw [agree.arcs_eq] at listed
  exact ⟨name, partner, named, namedOther, holdsOther.hasArc_iff.2 ⟨name, namedOther, listed⟩⟩

/-- The transitions have the same names. -/
theorem transition_names_eq : first.net.transitions.map Transition.name =
    second.net.transitions.map Transition.name := by
  rw [holds.names_eq, holdsOther.names_eq, agree.instances_eq]

/-- **Nets with contents that agree correspond**, every place paired with the one of its
name. -/
theorem corresponds : first.net.Corresponds (first.net.SameName second.net) second.net where
  length_transitions := by
    rw [holds.length_transitions, holdsOther.length_transitions, agree.instances_eq]
  buses_eq :=
    holds.sound.wellBuilt.buses_eq holds.sound.consistent holdsOther.sound.wellBuilt
      holdsOther.sound.consistent (transition_names_eq holds holdsOther agree)
  one_to_one := by
    rintro place other partner otherPartner ⟨name, named, partnerNamed⟩
      ⟨otherName, otherNamed, otherPartnerNamed⟩
    constructor
    · rintro rfl
      obtain rfl : name = otherName := Option.some.inj (named.symm.trans otherNamed)
      exact Net.place_eq_of_placeName? holdsOther.sound.wellBuilt.place_names_nodup partnerNamed
        otherPartnerNamed
    · rintro rfl
      obtain rfl : name = otherName :=
        Option.some.inj (partnerNamed.symm.trans otherPartnerNamed)
      exact Net.place_eq_of_placeName? holds.sound.wellBuilt.place_names_nodup named otherNamed
  arc_forth := by
    intro kind transition place arc
    obtain ⟨name, partner, named, namedOther, arcThere⟩ :=
      exists_arc holds holdsOther agree arc
    exact ⟨partner, ⟨name, named, namedOther⟩, arcThere⟩
  arc_back := by
    intro kind transition partner arc
    obtain ⟨name, place, namedOther, named, arcHere⟩ :=
      exists_arc holdsOther holds agree.symm arc
    exact ⟨place, ⟨name, named, namedOther⟩, arcHere⟩

omit holdsOther agree in
/-- At the start a place is marked if its name is a fact. -/
theorem getElem?_initial {place : PlaceId} {name : String}
    (named : first.net.placeName? place = some name) :
    (Marking.initial first.net).marks[place]? = some (decide (name ∈ contents.facts)) := by
  obtain ⟨entry, found, rfl⟩ := Option.map_eq_some_iff.1 named
  have listed := List.mem_of_getElem? found
  rw [holds.places_eq] at listed
  obtain ⟨name, -, rfl⟩ := List.mem_map.1 listed
  rw [Marking.initial, List.getElem?_map, found]
  rfl

/-- The initial markings correspond. -/
theorem initial_corresponds : (Marking.initial first.net).Corresponds
    (first.net.SameName second.net) (Marking.initial second.net) := by
  rintro place partner ⟨name, named, namedOther⟩
  rw [holds.getElem?_initial named, holdsOther.getElem?_initial namedOther,
    decide_eq_decide.2 (agree.mem_facts name)]

/-- Snapshots of corresponding markings say the same of every name. -/
theorem find?_snapshot_eq {marking other : Marking}
    (markings : marking.Corresponds (first.net.SameName second.net) other) (name : String) :
    (marking.snapshot first.net).find? name = (other.snapshot second.net).find? name := by
  have distinct := holds.sound.wellBuilt.place_names_nodup
  have distinctOther := holdsOther.sound.wellBuilt.place_names_nodup
  have names :
      name ∈ first.net.places.map Place.name ↔ name ∈ second.net.places.map Place.name := by
    rw [holds.mem_names, holdsOther.mem_names]
    exact agree.mem_mentioned name
  by_cases known : name ∈ first.net.places.map Place.name
  · obtain ⟨entry, listed, rfl⟩ := List.mem_map.1 known
    obtain ⟨place, named⟩ := Net.placeName?_of_mem listed
    obtain ⟨partner, namedOther⟩ := exists_partner holds holdsOther agree named
    rw [marking.find?_snapshot distinct named, other.find?_snapshot distinctOther namedOther,
      markings.isMarked_eq ⟨_, named, namedOther⟩]
  · rw [marking.find?_snapshot_eq_none known, other.find?_snapshot_eq_none (mt names.2 known)]

end Builder.Holds

/-- **Where facts are written does not matter to any run.** On nets built from statements in
which only facts have been moved about, runs with the same budget, seed and story fire the
same labels and instances in every record, stop alike and get equally far in the story. In
every record, and at the end, every name has the same value. -/
theorem runs_same_of_movesFacts {statements others : List Statement}
    (moved : MovesFacts statements others) {budget : Nat} (positive : 0 < budget) (seed : UInt64)
    (story : List String) :
    ∃ trace other log,
      runStory (Builder.ofStatements statements).net budget seed story = .ok (trace, log) ∧
        runStory (Builder.ofStatements others).net budget seed story = .ok (other, log) ∧
          trace.SameUpTo (fun first second => ∀ name, first.find? name = second.find? name)
            other := by
  have holds := Builder.holds_ofStatements statements
  have holdsOther := Builder.holds_ofStatements others
  have nets := holds.corresponds holdsOther moved.agree
  refine nets.runStory holds.sound.consistent holdsOther.sound.consistent
    (holds.initial_corresponds holdsOther moved.agree) ?_ positive seed story
  intro marking other markings
  exact holds.find?_snapshot_eq holdsOther moved.agree markings

/-- The fact comes last instead of first, and takes a fact along from between the clauses, so
that the places are numbered differently. Two steps are taken all the same. -/
theorem facts_last_runs_same :
    let statements : List Statement := [.factual ["p"],
      .clause "left" [(.produce, "q"), (.consume, "p")], .factual ["r", "p"],
      .clause "right" [(.consume, "p"), (.catalyst, "r")],
      .clause "back" [(.consume, "r"), (.produce, "p")]]
    let others : List Statement := [.clause "left" [(.produce, "q"), (.consume, "p")],
      .clause "right" [(.consume, "p"), (.catalyst, "r")],
      .clause "back" [(.consume, "r"), (.produce, "p")], .factual ["r", "p"], .factual ["p"]]
    ((Builder.ofStatements statements).net.places.map Place.name = ["p", "q", "r"] ∧
      (Builder.ofStatements others).net.places.map Place.name = ["q", "p", "r"]) ∧
    ∃ trace other log,
      runStory (Builder.ofStatements statements).net 5 7 ["right"] = .ok (trace, log) ∧
        runStory (Builder.ofStatements others).net 5 7 ["right"] = .ok (other, log) ∧
          trace.SameUpTo (fun first second => ∀ name, first.find? name = second.find? name)
            other ∧
          trace.steps.map StepRecord.firedLabels = [["right", "back"], ["left"]] := by
  intro statements others
  have moved : MovesFacts statements others := ⟨by decide, by decide⟩
  obtain ⟨trace, other, log, told, otherTold, same⟩ :=
    runs_same_of_movesFacts moved (show 0 < 5 by decide) 7 ["right"]
  have labels : trace.steps.map StepRecord.firedLabels = [["right", "back"], ["left"]] :=
    view_eq_of_eq_ok told (fun trace => trace.steps.map _) (by decide +kernel)
  exact ⟨by decide +kernel, trace, other, log, told, otherTold, same, labels⟩

end EventNet
