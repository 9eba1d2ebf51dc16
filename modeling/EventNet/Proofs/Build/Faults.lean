import EventNet.Proofs.Build.Instances

/-!
# What is reported of statements

The faults of a statement can be read off it without building anything (`Statement.faults`).
A blank label is one, and so are a factual statement without places and a clause without a
transition. An arc of a clause is at fault if the clause has an arc on the same place already
that contradicts it. Of the kinds of arcs that produce nothing at most one is kept on a place
(`Firm`), so that there is no question which one it is.

Building reports just these faults, each with the position of its statement and in the order
in which they are met (`Builder.ofStatements_reports`).
-/

set_option autoImplicit false

namespace EventNet

/-! ## The faults of statements -/

/-- The fault of a text that should be a label. -/
def labelFault? (text : String) : Option BuildFault :=
  if (labelOf? text).isNone then some .emptyLabel else none

/-- The kind of the first kept arc on a place that does not produce. -/
def standing? (kept : List (ArcKind × String)) (label : String) : Option ArcKind :=
  (kept.find? fun arc => arc.2 == label && arc.1 != .produce).map Prod.fst

/-- The fault of an arc that is read after those kept so far. A kind that does not produce is at
fault on a place where another such kind stands. -/
def arcFault? (transition : String) (kept : List (ArcKind × String))
    (arc : ArcKind × String) : Option BuildFault :=
  match labelOf? arc.2 with
  | none => some .emptyLabel
  | some label =>
    ((standing? kept label).filter fun previous => previous != arc.1 && arc.1 != .produce).map
      (.conflictingArcs label transition arc.1)

/-- The faults of arcs that are read after those kept so far. -/
def arcFaults (transition : String) (kept : List (ArcKind × String)) :
    List (ArcKind × String) → List BuildFault
  | [] => []
  | arc :: arcs =>
    (arcFault? transition kept arc).toList ++ arcFaults transition (keepArc kept arc) arcs

/-- What is wrong with a statement. -/
def Statement.faults : Statement → List BuildFault
  | factual [] => [.emptyStatement]
  | factual places => places.filterMap labelFault?
  | clause transition arcs =>
    match labelOf? transition with
    | none => (arcs.filterMap fun arc => labelFault? arc.2) ++ [.missingTransition]
    | some label => arcFaults label [] arcs

/-- What stands on a place is a kept arc that does not produce. -/
theorem mem_of_standing? {kept : List (ArcKind × String)} {label : String} {kind : ArcKind}
    (stands : standing? kept label = some kind) : (kind, label) ∈ kept ∧ kind ≠ .produce := by
  obtain ⟨⟨other, place⟩, found, rfl⟩ := Option.map_eq_some_iff.1 stands
  have accepted := List.find?_some found
  simp only [Bool.and_eq_true, beq_iff_eq, bne_iff_ne] at accepted
  obtain ⟨rfl, takes⟩ := accepted
  exact ⟨List.mem_of_find?_eq_some found, takes⟩

theorem Builder.contradicts_iff {first second : ArcKind} :
    Builder.contradicts first second = true ↔
      first ≠ second ∧ first ≠ .produce ∧ second ≠ .produce := by
  simp only [Builder.contradicts, Bool.and_eq_true, bne_iff_ne, and_assoc]

/-- Of the kinds of arcs that produce nothing, at most one is on a place. -/
def Firm (arcs : List (ArcKind × String)) : Prop :=
  ∀ (label : String) (first second : ArcKind), (first, label) ∈ arcs → (second, label) ∈ arcs →
    first ≠ .produce → second ≠ .produce → first = second

theorem firm_nil : Firm [] := by
  intro label first second listed
  cases listed

namespace Firm

variable {kept : List (ArcKind × String)}

/-- An arc is kept only if it contradicts none. -/
theorem keepArc (firm : Firm kept) (arc : ArcKind × String) : Firm (keepArc kept arc) := by
  unfold EventNet.keepArc
  split
  · exact firm
  · rename_i label _
    split
    · exact firm
    · rename_i new
      have agrees : ∀ kind, (kind, label) ∈ kept → kind ≠ .produce → arc.1 ≠ .produce →
          kind = arc.1 := by
        intro kind listed takes takesToo
        by_contra different
        exact new (.inr ⟨(kind, label), listed, rfl,
          Builder.contradicts_iff.2 ⟨different, takes, takesToo⟩⟩)
      intro other first second firstListed secondListed firstTakes secondTakes
      simp only [List.mem_append, List.mem_singleton, Prod.mk.injEq] at firstListed secondListed
      rcases firstListed with firstOld | ⟨rfl, rfl⟩ <;>
        rcases secondListed with secondOld | ⟨rfl, sameLabel⟩
      · exact firm other first second firstOld secondOld firstTakes secondTakes
      · subst sameLabel
        exact agrees first firstOld firstTakes secondTakes
      · exact (agrees second secondOld secondTakes firstTakes).symm
      · rfl

theorem foldl_keepArc (firm : Firm kept) (arcs : List (ArcKind × String)) :
    Firm (arcs.foldl EventNet.keepArc kept) := by
  induction arcs generalizing kept with
  | nil => exact firm
  | cons arc arcs ih =>
    rw [List.foldl_cons]
    exact ih (firm.keepArc arc)

/-- The one arc on a place that does not produce. -/
theorem standing?_eq (firm : Firm kept) {kind : ArcKind} {label : String}
    (listed : (kind, label) ∈ kept) (takes : kind ≠ .produce) :
    standing? kept label = some kind := by
  cases stands : standing? kept label with
  | none =>
    have none := List.find?_eq_none.1 (Option.map_eq_none_iff.1 stands) (kind, label) listed
    simp [takes] at none
  | some other =>
    obtain ⟨standing, otherTakes⟩ := mem_of_standing? stands
    rw [firm label other kind standing listed otherTakes takes]

end Firm

namespace Builder

/-- The faults of a statement that are reported between one builder and a later one. -/
def Reports (index : Nat) (before after : Builder) (faults : List BuildFault) : Prop :=
  after.errors = before.errors ++ faults.map (BuildError.mk (some index))

namespace Reports

variable {index : Nat} {first second third : Builder} {faults more : List BuildFault}

theorem report (builder : Builder) (fault : BuildFault) :
    Reports index builder (builder.report index fault) [fault] := rfl

theorem quiet (same : second.errors = first.errors) : Reports index first second [] := by
  rw [Reports, same, List.map_nil, List.append_nil]

theorem congr (reports : Reports index first second faults)
    (same : third.errors = second.errors) : Reports index first third faults :=
  same.trans reports

theorem trans (start : Reports index first second faults)
    (further : Reports index second third more) :
    Reports index first third (faults ++ more) := by
  rw [Reports, further, start, List.append_assoc, List.map_append]

/-- What a step reports of each item, it reports of all of them. -/
theorem foldl {α : Type} {step : Builder → α → Builder} {fault? : α → Option BuildFault}
    (reports_step : ∀ (builder : Builder) (item : α),
      Reports index builder (step builder item) (fault? item).toList)
    (builder : Builder) (items : List α) :
    Reports index builder (items.foldl step builder) (items.filterMap fault?) := by
  induction items generalizing builder with
  | nil => exact quiet rfl
  | cons item items ih =>
    rw [← toList_append_filterMap]
    exact (reports_step builder item).trans (ih (step builder item))

end Reports

section Labels

variable (builder : Builder) (index : Nat) (text : String)

theorem errors_place (label : String) : (builder.place label).2.errors = builder.errors := by
  unfold Builder.place
  split <;> rfl

/-- A blank label is all that looking up a label reports. -/
theorem reports_placeOf? :
    Reports index builder (builder.placeOf? index text).2 (labelFault? text).toList := by
  unfold labelFault?
  cases labelled : labelOf? text with
  | none =>
    rw [placeOf?_of_blank labelled]
    rfl
  | some label =>
    rw [placeOf?_of_label labelled]
    exact .quiet (errors_place builder label)

theorem reports_pushFact :
    Reports index builder (pushFact index builder text) (labelFault? text).toList := by
  have looked := reports_placeOf? builder index text
  unfold pushFact
  split
  · rename_i after same
    rw [same] at looked
    exact looked
  · rename_i place after same
    rw [same] at looked
    exact looked.congr rfl

theorem reports_pushMention (arc : ArcKind × String) :
    Reports index builder (pushMention index builder arc) (labelFault? arc.2).toList :=
  reports_placeOf? builder index arc.2

theorem errors_pushInstance : (builder.pushInstance index text).2.errors = builder.errors := rfl

end Labels

section Arcs

variable {builder : Builder} {mentioned facts : List String}
variable {instances : List (String × List (ArcKind × String))} {name : String}
variable {kept : List (ArcKind × String)}

/-- What stands in the way of an arc of this instance is a kept arc that contradicts it. -/
theorem Holds.of_conflictingKind?_last
    (holds : builder.Holds { mentioned, facts, instances := instances ++ [(name, kept)] })
    {place : PlaceId} {label : String} (named : builder.net.placeName? place = some label)
    {kind previous : ArcKind}
    (conflict : conflictingKind? builder.net place instances.length kind = some previous) :
    (previous, label) ∈ kept ∧ contradicts previous kind = true := by
  obtain ⟨arc, found, rfl⟩ := Option.map_eq_some_iff.1 conflict
  obtain ⟨listed, atTransition⟩ :=
    holds.sound.consistent.mem_arcsOf.1 (List.mem_of_find?_eq_some found)
  have accepted := List.find?_some found
  simp only [Bool.and_eq_true, beq_iff_eq] at accepted
  obtain ⟨rfl, contradicting⟩ := accepted
  refine ⟨(holds.hasArc_last_iff named).1 ?_, contradicting⟩
  rw [Net.HasArc, ← atTransition]
  exact listed

/-- **An arc of a clause is reported if it is at fault.** -/
theorem Holds.reports_pushArc
    (holds : builder.Holds { mentioned, facts, instances := instances ++ [(name, kept)] })
    (firm : Firm kept) (index : Nat) (text : String) (arc : ArcKind × String) :
    Reports index builder (Builder.pushArc index text instances.length builder arc)
      (arcFault? text kept arc).toList := by
  obtain ⟨kind, written⟩ := arc
  unfold Builder.pushArc arcFault?
  cases labelled : labelOf? written with
  | none =>
    rw [placeOf?_of_blank labelled]
    rfl
  | some label =>
    have trimmed := (labelOf?_eq_some_iff.1 labelled).2
    have placed := holds.place label
    have named := holds.sound.placeName?_place label
    have quiet := errors_place builder label
    rw [placeOf?_of_label labelled]
    generalize builder.place label = result at *
    obtain ⟨place, after⟩ := result
    dsimp only at *
    cases conflict : conflictingKind? after.net place instances.length kind with
    | some previous =>
      obtain ⟨listed, contradicting⟩ := placed.of_conflictingKind?_last named conflict
      obtain ⟨different, takes, takesToo⟩ := contradicts_iff.1 contradicting
      have atFault : (previous != kind && kind != .produce) = true := by simp [different, takesToo]
      rw [firm.standing?_eq listed takes, trimmed, Option.filter_some, if_pos atFault]
      exact (Reports.quiet quiet).trans (.report after _)
    | none =>
      have free := (placed.conflictingKind?_last_eq_none_iff named).1 conflict
      have blameless : (standing? kept label).filter
          (fun previous => previous != kind && kind != .produce) = none := by
        refine Option.filter_eq_none_iff.2 ?_
        intro previous stands atFault
        obtain ⟨listed, takes⟩ := mem_of_standing? stands
        simp only [Bool.and_eq_true, bne_iff_ne] at atFault
        exact free ⟨(previous, label), listed, rfl,
          contradicts_iff.2 ⟨atFault.1, takes, atFault.2⟩⟩
      rw [blameless]
      refine .quiet (Eq.trans ?_ quiet)
      dsimp only
      split <;> rfl

/-- The arcs of a clause are reported one after another. -/
theorem Holds.reports_foldl_pushArc
    (holds : builder.Holds { mentioned, facts, instances := instances ++ [(name, kept)] })
    (firm : Firm kept) (index : Nat) (text : String) (arcs : List (ArcKind × String)) :
    Reports index builder (arcs.foldl (Builder.pushArc index text instances.length) builder)
      (arcFaults text kept arcs) := by
  induction arcs generalizing builder mentioned kept with
  | nil => exact .quiet rfl
  | cons arc arcs ih =>
    rw [List.foldl_cons]
    exact (holds.reports_pushArc firm index text arc).trans
      (ih (holds.pushArc index text arc) (firm.keepArc arc))

end Arcs

/-! ## Statements -/

section Statements

variable {builder : Builder} {contents : Contents}

/-- **The faults of a statement are reported**, with its position. -/
theorem Holds.reports_push (holds : builder.Holds contents) (index : Nat)
    (statement : Statement) :
    Reports index builder (builder.push index statement) statement.faults := by
  cases statement with
  | factual places =>
    cases places with
    | nil => exact .report builder .emptyStatement
    | cons place places =>
      have stated : Reports index builder ((place :: places).foldl (Builder.pushFact index) builder)
          ((place :: places).filterMap labelFault?) :=
        Reports.foldl (fun builder text => reports_pushFact builder index text) builder _
      exact stated
  | clause transition arcs =>
    cases labelled : labelOf? transition with
    | none =>
      have blank := labelOf?_eq_none_iff.1 labelled
      have mentioned : Reports index builder (arcs.foldl (pushMention index) builder)
          (arcs.filterMap fun arc => labelFault? arc.2) :=
        Reports.foldl (fun builder arc => reports_pushMention builder index arc) builder arcs
      simp only [Builder.push, if_pos blank, Statement.faults, labelled]
      exact mentioned.trans (.report _ .missingTransition)
    | some label =>
      obtain ⟨notBlank, trimmed⟩ := labelOf?_eq_some_iff.1 labelled
      have last : (builder.pushInstance index label).1 = contents.instances.length :=
        holds.length_transitions
      have made := (holds.pushInstance index label).reports_foldl_pushArc firm_nil index label arcs
      simp only [Builder.push, trimmed, if_neg notBlank, last, Statement.faults, labelled]
      refine Reports.trans (.quiet ?_) made
      exact errors_pushInstance builder index label

/-- What is reported of statements, one after another. -/
theorem Holds.errors_pushAll (holds : builder.Holds contents) (index : Nat)
    (statements : List Statement) :
    (builder.pushAll index statements).errors = builder.errors ++
      (statements.zipIdx index).flatMap fun entry =>
        entry.1.faults.map (BuildError.mk (some entry.2)) := by
  induction statements generalizing builder contents index with
  | nil => exact (List.append_nil _).symm
  | cons statement statements ih =>
    have here := holds.reports_push index statement
    rw [Builder.pushAll, ih (holds.push index statement), here, List.append_assoc]
    rfl

end Statements

/-- **What a net holds and what is reported can be read off the statements.** Each clause that
names a transition makes an instance of this name, with the arcs that are kept of it, in their
order. Everything that is wrong with a statement is reported with its position, and nothing
else is. A kept arc that does not produce is the only one of its place. -/
theorem ofStatements_reports (statements : List Statement) :
    (ofStatements statements).net.instances =
        ((statements.filterMap Statement.transition?).map fun entry =>
          (entry.1, entry.2.map fun arc => (arc.1, some arc.2))) ∧
      (ofStatements statements).errors =
        (statements.zipIdx.flatMap fun entry =>
          entry.1.faults.map (BuildError.mk (some entry.2))) ∧
      ∀ arcs : List (ArcKind × String), Firm (arcs.foldl keepArc []) := by
  refine ⟨(holds_ofStatements statements).instances_eq, ?_, firm_nil.foldl_keepArc⟩
  rw [ofStatements, holds_empty.errors_pushAll]
  rfl

/-- A clause is read with spaces around its labels. Of its arcs on one place the second
contradicts the first, and the last repeats it. -/
example : (Statement.clause " t " [(.consume, "a"), (.inhibit, " a "), (.produce, "a"),
    (.catalyst, " "), (.consume, "a ")]).faults =
      [.conflictingArcs "a" "t" .inhibit .consume, .emptyLabel] := by decide +kernel

end Builder

end EventNet
