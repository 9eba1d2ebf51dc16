import EventNet.Proofs.Build.Calls

/-!
# What can go wrong with tidy statements

A statement is tidy if it says something and all its labels are as trimming leaves them and
not blank. The labels of such a statement become the names of places and transitions as they
stand, and the only fault that it can have is a conflict: an arc of a clause contradicts an
earlier arc of the same clause on the same place (`Conflict`).

What every part of a statement adds to a builder is one relation (`Adds`), which composes.
Along the arcs of a clause the arcs that are made for it stay arcs that it has
(`MadeFrom`); so an arc that is in the way comes from the same clause. A list of statements
is an induction over its items (`Sound.adds_pushAll`).
-/

set_option autoImplicit false

namespace EventNet

/-- Trimming leaves the label as it is, and it is not blank. -/
def IsTidy (label : String) : Prop := Text.trim label = label ∧ label ≠ ""

/-- The statement names a place or a transition, and all its labels have a property. -/
def Statement.All (Holds : String → Prop) : Statement → Prop
  | .factual places => places ≠ [] ∧ ∀ label ∈ places, Holds label
  | .clause transition arcs => Holds transition ∧ ∀ arc ∈ arcs, Holds arc.2

/-- All names of a net have a property. -/
structure Net.Named (Holds : String → Prop) (net : Net) : Prop where
  places : ∀ place ∈ net.places, Holds place.name
  transitions : ∀ transition ∈ net.transitions, Holds transition.name

/-- An arc that was left out, since an earlier one of its statement contradicts it. -/
structure Conflict where
  /-- The position of the statement. -/
  index : Nat
  place : String
  transition : String
  kind : ArcKind
  /-- The kind of the arc that was there already. -/
  previous : ArcKind

namespace Conflict

/-- The report about a conflict. -/
def error (conflict : Conflict) : BuildError :=
  { index := some conflict.index
    fault := .conflictingArcs conflict.place conflict.transition conflict.kind conflict.previous }

/-- The clause has both arcs in this order, and they contradict each other. -/
def IsIn (conflict : Conflict) (arcs : List (ArcKind × String)) : Prop :=
  Builder.contradicts conflict.previous conflict.kind = true ∧
    ∃ earlier later, arcs = earlier ++ (conflict.kind, conflict.place) :: later ∧
      (conflict.previous, conflict.place) ∈ earlier

theorem IsIn.append {conflict : Conflict} {arcs : List (ArcKind × String)}
    (isIn : conflict.IsIn arcs) (more : List (ArcKind × String)) :
    conflict.IsIn (arcs ++ more) := by
  obtain ⟨contradicting, earlier, later, rfl, member⟩ := isIn
  exact ⟨contradicting, earlier, later ++ more, by simp, member⟩

/-- The conflict is one within the statement at its position. -/
def Concerns (conflict : Conflict) (statements : List Statement) : Prop :=
  ∃ arcs, statements[conflict.index]? = some (.clause conflict.transition arcs) ∧
    conflict.IsIn arcs

end Conflict

namespace Builder

/-- What comes to a builder: reports about conflicts only, and names with the property only. -/
structure Adds (Holds : String → Prop) (before after : Builder) (conflicts : List Conflict) :
    Prop where
  errors_eq : after.errors = before.errors ++ conflicts.map Conflict.error
  named : before.net.Named Holds → after.net.Named Holds

namespace Adds

variable {Holds : String → Prop} {first second third : Builder}

/-- Where nothing is reported there is no conflict. -/
theorem quiet (errors_eq : second.errors = first.errors)
    (named : first.net.Named Holds → second.net.Named Holds) : Adds Holds first second [] :=
  ⟨errors_eq.trans (List.append_nil _).symm, named⟩

theorem refl (builder : Builder) : Adds Holds builder builder [] := quiet rfl id

theorem report (builder : Builder) (conflict : Conflict) :
    Adds Holds builder (builder.report conflict.index conflict.error.fault) [conflict] :=
  ⟨rfl, id⟩

theorem trans {conflicts more : List Conflict} (start : Adds Holds first second conflicts)
    (further : Adds Holds second third more) : Adds Holds first third (conflicts ++ more) := by
  refine ⟨?_, further.named ∘ start.named⟩
  rw [further.errors_eq, start.errors_eq, List.map_append, List.append_assoc]

theorem foldl {α : Type} {step : Builder → α → Builder} {items : List α}
    (adds_step : ∀ item ∈ items, ∀ builder, Adds Holds builder (step builder item) [])
    (builder : Builder) : Adds Holds builder (items.foldl step builder) [] := by
  induction items generalizing builder with
  | nil => exact .refl builder
  | cons item items ih =>
    obtain ⟨here, others⟩ := List.forall_mem_cons.1 adds_step
    rw [List.foldl_cons]
    exact (here builder).trans (ih others _)

end Adds

section Parts

variable {Holds : String → Prop} (tidy : ∀ label, Holds label → IsTidy label)
variable {label : String} (holds : Holds label)

include holds

theorem adds_place (builder : Builder) : Adds Holds builder (builder.place label).2 [] := by
  unfold place
  split
  · exact .refl builder
  · refine .quiet rfl fun named => ⟨?_, named.transitions⟩
    intro place listed
    rcases List.mem_append.1 listed with old | new
    · exact named.places place old
    · rw [List.mem_singleton.1 new]
      exact holds

include tidy

/-- A tidy label is taken as it stands. -/
theorem placeOf?_eq (builder : Builder) (index : Nat) :
    builder.placeOf? index label = (some (builder.place label).1, (builder.place label).2) := by
  obtain ⟨trimmed, notBlank⟩ := tidy label holds
  simp only [placeOf?, trimmed, String.isEmpty_iff, if_neg notBlank]

theorem adds_pushFact (builder : Builder) (index : Nat) :
    Adds Holds builder (pushFact index builder label) [] := by
  unfold pushFact
  rw [placeOf?_eq tidy holds]
  refine (adds_place holds builder).trans (.quiet rfl fun named => ?_)
  have names := List.forall_mem_map.2 named.places
  have same : ((builder.place label).2.net.places.modify (builder.place label).1 fun entry =>
      { entry with factual := true }).map Place.name =
        (builder.place label).2.net.places.map Place.name := by
    refine map_modify_of_eq ?_ _ _
    exact fun _ => rfl
  rw [← same] at names
  exact ⟨List.forall_mem_map.1 names, named.transitions⟩

end Parts

/-! ## Arcs -/

section Arcs

variable {Holds : String → Prop} {builder : Builder} {transition : TransitionId}

/-- The arcs of a transition come from arcs of its clause. -/
def MadeFrom (arcs : List (ArcKind × String)) (transition : TransitionId) (builder : Builder) :
    Prop :=
  ∀ arc ∈ builder.net.arcs, arc.transition = transition →
    ∃ label, (arc.kind, label) ∈ arcs ∧ builder.net.placeName? arc.place = some label

namespace MadeFrom

variable {arcs more : List (ArcKind × String)}

theorem mono (made : MadeFrom arcs transition builder) (subset : arcs ⊆ more) :
    MadeFrom more transition builder := by
  intro arc listed atTransition
  obtain ⟨label, inClause, named⟩ := made arc listed atTransition
  exact ⟨label, subset inClause, named⟩

/-- A further place changes nothing. -/
theorem place (made : MadeFrom arcs transition builder) (sound : builder.Sound) (label : String) :
    MadeFrom arcs transition (builder.place label).2 := by
  have same : (builder.place label).2.net.arcs = builder.net.arcs := by
    unfold Builder.place
    split <;> rfl
  intro arc listed atTransition
  rw [same] at listed
  obtain ⟨label, inClause, named⟩ := made arc listed atTransition
  exact ⟨label, inClause, (sound.extends_place _).placeName? named⟩

/-- A further arc comes from an arc of the clause as well. -/
theorem appendArc (made : MadeFrom arcs transition builder) {new : Arc} {label : String}
    (inClause : (new.kind, label) ∈ arcs)
    (named : builder.net.placeName? new.place = some label) :
    MadeFrom arcs transition { builder with net := builder.net.appendArc new } := by
  intro arc listed atTransition
  rcases List.mem_append.1 listed with old | isNew
  · exact made arc old atTransition
  · obtain rfl := List.mem_singleton.1 isNew
    exact ⟨label, inClause, named⟩

/-- An arc that contradicts a new one comes from an arc of the clause on the same place. -/
theorem of_conflictingKind? (made : MadeFrom arcs transition builder)
    (consistent : builder.net.Consistent) {place : PlaceId} {label : String}
    (named : builder.net.placeName? place = some label)
    {kind previous : ArcKind}
    (found : conflictingKind? builder.net place transition kind = some previous) :
    contradicts previous kind = true ∧ (previous, label) ∈ arcs := by
  obtain ⟨arc, first, rfl⟩ := Option.map_eq_some_iff.1 found
  have meets := List.find?_some first
  rw [Bool.and_eq_true, beq_iff_eq] at meets
  obtain ⟨rfl, contradicting⟩ := meets
  obtain ⟨listed, atTransition⟩ := consistent.mem_arcsOf.1 (List.mem_of_find?_eq_some first)
  obtain ⟨other, inClause, same⟩ := made arc listed atTransition
  obtain rfl : other = label := Option.some.inj (same.symm.trans named)
  exact ⟨contradicting, inClause⟩

end MadeFrom

/-- What an arc of a clause adds, after those before it. -/
theorem Sound.adds_pushArc (sound : builder.Sound)
    (tidy : ∀ label, Holds label → IsTidy label) (index : Nat) (name : String)
    (inTransitions : transition < builder.net.transitions.length)
    {done : List (ArcKind × String)} (made : MadeFrom done transition builder)
    {arc : ArcKind × String} (holds : Holds arc.2) :
    MadeFrom (done ++ [arc]) transition (pushArc index name transition builder arc) ∧
      ∃ conflicts : List Conflict,
        Adds Holds builder (pushArc index name transition builder arc) conflicts ∧
          ∀ conflict ∈ conflicts, conflict.index = index ∧ conflict.transition = name ∧
            conflict.IsIn (done ++ [arc]) := by
  have looked := (sound.extends_place arc.2).sound
  have named := sound.placeName?_place arc.2
  have placed := adds_place holds builder
  have before := made.place sound arc.2
  have inTransitions := Nat.lt_of_lt_of_le inTransitions (sound.extends_place arc.2).transitions_le
  unfold pushArc
  rw [placeOf?_eq tidy holds, (tidy _ holds).1]
  generalize builder.place arc.2 = result at *
  obtain ⟨place, after⟩ := result
  dsimp only at *
  have longer := before.mono (List.subset_append_left done [arc])
  cases found : conflictingKind? after.net place transition arc.1 with
  | some previous =>
    obtain ⟨contradicting, earlier⟩ := before.of_conflictingKind? looked.consistent named found
    let conflict : Conflict := ⟨index, arc.2, name, arc.1, previous⟩
    refine ⟨longer, [conflict], placed.trans (.report after conflict), fun other listed => ?_⟩
    obtain rfl := List.mem_singleton.1 listed
    exact ⟨rfl, rfl, contradicting, done, [], rfl, earlier⟩
  | none =>
    have inPlaces := Net.lt_of_placeName? named
    obtain ⟨id, net, added, -⟩ := looked.extends_addArc inPlaces inTransitions found
    rw [added]
    dsimp only
    obtain ⟨-, -, ⟨-, rfl⟩ | ⟨-, -, rfl⟩⟩ := Net.addArc_eq_ok_iff.1 added
    · exact ⟨longer, [], placed, by simp⟩
    · refine ⟨longer.appendArc (by simp) named, [],
        placed.trans (.quiet rfl fun names => ?_), by simp⟩
      have transitions := List.forall_mem_map.2 names.transitions
      rw [← Net.names_appendArc] at transitions
      exact ⟨names.places, List.forall_mem_map.1 transitions⟩

/-- What the arcs of a clause add, after those that are there already. -/
theorem Sound.adds_foldl_pushArc (sound : builder.Sound)
    (tidy : ∀ label, Holds label → IsTidy label) (index : Nat) (name : String)
    (inTransitions : transition < builder.net.transitions.length)
    {done : List (ArcKind × String)} (made : MadeFrom done transition builder)
    (arcs : List (ArcKind × String)) (holds : ∀ arc ∈ arcs, Holds arc.2) :
    ∃ conflicts : List Conflict,
      Adds Holds builder (arcs.foldl (pushArc index name transition) builder) conflicts ∧
        ∀ conflict ∈ conflicts, conflict.index = index ∧ conflict.transition = name ∧
          conflict.IsIn (done ++ arcs) := by
  induction arcs generalizing builder done with
  | nil => exact ⟨[], .refl builder, by simp⟩
  | cons arc arcs ih =>
    obtain ⟨here, others⟩ := List.forall_mem_cons.1 holds
    obtain ⟨madeNext, first, addsFirst, areFirst⟩ :=
      sound.adds_pushArc tidy index name inTransitions made here
    have extension := sound.extends_pushArc index name inTransitions arc
    obtain ⟨rest, addsRest, areRest⟩ := ih extension.sound
      (Nat.lt_of_lt_of_le inTransitions extension.transitions_le) madeNext others
    rw [List.append_assoc] at areRest
    rw [List.foldl_cons]
    refine ⟨first ++ rest, addsFirst.trans addsRest, fun conflict listed => ?_⟩
    rcases List.mem_append.1 listed with inFirst | inRest
    · obtain ⟨sameIndex, sameName, isIn⟩ := areFirst conflict inFirst
      rw [List.append_cons]
      exact ⟨sameIndex, sameName, isIn.append arcs⟩
    · exact areRest conflict inRest

end Arcs

/-! ## Statements -/

section Statements

variable {Holds : String → Prop} {builder : Builder}

theorem adds_pushInstance (builder : Builder) (index : Nat) {label : String}
    (holds : Holds label) : Adds Holds builder (builder.pushInstance index label).2 [] := by
  refine .quiet rfl fun named => ⟨named.places, fun entry listed => ?_⟩
  rcases List.mem_append.1 listed with old | new
  · exact named.transitions entry old
  · rw [List.mem_singleton.1 new]
    exact holds

/-- A new transition has no arcs. -/
theorem Sound.madeFrom_pushInstance (sound : builder.Sound) (index : Nat) (label : String) :
    MadeFrom [] (builder.pushInstance index label).1 (builder.pushInstance index label).2 := by
  intro arc listed atTransition
  have old : builder.net.HasArc arc.kind arc.transition arc.place := listed
  have below := (sound.consistent.lt_of_hasArc old).1
  rw [atTransition] at below
  exact absurd below (Nat.lt_irrefl _)

/-- **The only fault of a tidy statement is a conflict between its arcs.** -/
theorem Sound.adds_push (sound : builder.Sound) (tidy : ∀ label, Holds label → IsTidy label)
    (index : Nat) {statement : Statement} (all : statement.All Holds) :
    ∃ conflicts : List Conflict, Adds Holds builder (builder.push index statement) conflicts ∧
      ∀ conflict ∈ conflicts, conflict.index = index ∧
        ∃ arcs, statement = .clause conflict.transition arcs ∧ conflict.IsIn arcs := by
  cases statement with
  | factual places =>
    obtain ⟨nonempty, holds⟩ := all
    refine ⟨[], ?_, by simp⟩
    rw [push]
    · refine .foldl ?_ builder
      intro label listed builder
      exact adds_pushFact tidy (holds label listed) builder index
    · exact nonempty
  | clause transition arcs =>
    obtain ⟨holdsName, holds⟩ := all
    obtain ⟨trimmed, notBlank⟩ := tidy transition holdsName
    simp only [push, trimmed, String.isEmpty_iff, if_neg notBlank]
    have extension := sound.extends_pushInstance index transition
    have inTransitions : (builder.pushInstance index transition).1 <
        (builder.pushInstance index transition).2.net.transitions.length := by
      simp [pushInstance, Net.addTransition]
    obtain ⟨conflicts, adds, are⟩ := extension.sound.adds_foldl_pushArc tidy index transition
      inTransitions (sound.madeFrom_pushInstance index transition) arcs holds
    refine ⟨conflicts, (adds_pushInstance builder index holdsName).trans adds,
      fun conflict listed => ?_⟩
    obtain ⟨sameIndex, rfl, isIn⟩ := are conflict listed
    exact ⟨sameIndex, arcs, rfl, isIn⟩

/-- What statements add one after another, in their order. -/
theorem Sound.adds_pushAll (sound : builder.Sound) (tidy : ∀ label, Holds label → IsTidy label)
    (index : Nat) {statements : List Statement}
    (all : ∀ statement ∈ statements, statement.All Holds) :
    ∃ conflicts : List Conflict, Adds Holds builder (builder.pushAll index statements) conflicts ∧
      (conflicts.map Conflict.index).Pairwise (· ≤ ·) ∧
        ∀ conflict ∈ conflicts, ∃ offset arcs, conflict.index = index + offset ∧
          statements[offset]? = some (.clause conflict.transition arcs) ∧ conflict.IsIn arcs := by
  induction statements generalizing builder index with
  | nil => exact ⟨[], .refl builder, .nil, by simp⟩
  | cons statement statements ih =>
    obtain ⟨here, others⟩ := List.forall_mem_cons.1 all
    obtain ⟨first, addsFirst, areFirst⟩ := sound.adds_push tidy index here
    obtain ⟨rest, addsRest, ordered, areRest⟩ :=
      ih (sound.extends_push index statement).sound (index + 1) others
    refine ⟨first ++ rest, addsFirst.trans addsRest, ?_, fun conflict listed => ?_⟩
    · have atIndex : ∀ number ∈ first.map Conflict.index, number = index :=
        List.forall_mem_map.2 fun conflict listed => (areFirst conflict listed).1
      have later : ∀ number ∈ rest.map Conflict.index, index ≤ number := by
        refine List.forall_mem_map.2 fun conflict listed => ?_
        obtain ⟨offset, arcs, sameIndex, -⟩ := areRest conflict listed
        omega
      rw [List.map_append]
      refine List.pairwise_append.2 ⟨?_, ordered, fun one inFirst other inRest => ?_⟩
      · refine List.pairwise_of_forall_mem_list fun one inFirst other inSame => ?_
        rw [atIndex one inFirst, atIndex other inSame]
      · rw [atIndex one inFirst]
        exact later other inRest
    · rcases List.mem_append.1 listed with inFirst | inRest
      · obtain ⟨sameIndex, arcs, rfl, isIn⟩ := areFirst conflict inFirst
        exact ⟨0, arcs, sameIndex, rfl, isIn⟩
      · obtain ⟨offset, arcs, sameIndex, found, isIn⟩ := areRest conflict inRest
        exact ⟨offset + 1, arcs, by omega, found, isIn⟩

end Statements

/-- **From tidy statements a net with tidy names is built, and all that is reported are
conflicts**, each about the statement in which it is, in the order of the statements. -/
theorem ofStatements_conflicts {Holds : String → Prop}
    (tidy : ∀ label, Holds label → IsTidy label) {statements : List Statement}
    (all : ∀ statement ∈ statements, statement.All Holds) :
    (ofStatements statements).net.Named Holds ∧
      ∃ conflicts : List Conflict,
        (ofStatements statements).errors = conflicts.map Conflict.error ∧
          (conflicts.map Conflict.index).Pairwise (· ≤ ·) ∧
            ∀ conflict ∈ conflicts, conflict.Concerns statements := by
  obtain ⟨conflicts, adds, ordered, are⟩ := sound_empty.adds_pushAll tidy 0 all
  refine ⟨adds.named ⟨by simp [Net.empty], by simp [Net.empty]⟩, conflicts, adds.errors_eq, ordered,
    fun conflict listed => ?_⟩
  obtain ⟨offset, arcs, sameIndex, found, isIn⟩ := are conflict listed
  rw [Nat.zero_add] at sameIndex
  exact ⟨arcs, sameIndex ▸ found, isIn⟩

end Builder

end EventNet
