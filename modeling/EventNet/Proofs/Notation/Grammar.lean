import EventNet.Proofs.Notation.Parts

/-!
# The readers read the grammar

The readers try one form of a clause after another and never come back to a choice. So
reading every spelling needs that a form fails on the spellings of the forms that come after
it. The mark that is ahead decides this every time: behind an opening it is the number sign
of a transition (`Opening.Spells.readFrom`), and behind places it is a full stop, an arrow or
the mark of inhibitors.

A sentence is read as the statements that it stands for, whatever follows
(`statement_of_spells`), and what is read as statements is a sentence that stands for them
(`spells_of_statement`). A text starts with one sentence at most (`Sentence.Spells.unique`).
-/

set_option autoImplicit false

namespace EventNet.Notation

/-! ## Openings -/

/-- The places that an opening asks about. -/
def Opening.condition : Opening → Condition
  | bare => {}
  | arrow consumed catalysts inhibitors => { consumed, catalysts, inhibitors }
  | inhibition inhibitors => { inhibitors }

theorem clauseArcs_condition (opening : Opening) (products : List String) :
    clauseArcs opening.condition products =
      opening.arcs ++ products.map (ArcKind.produce, ·) := by
  cases opening <;> simp [clauseArcs, Opening.condition, Opening.arcs]

theorem sound_enabling {text rest : List Char} {asked : Condition}
    (read : enabling text = some (asked, rest)) :
    ∃ opening spelled, text = spelled ++ rest ∧ Opening.Spells opening spelled ∧
      opening.condition = asked := by
  simp only [enabling, Option.bind_eq_bind, Option.bind_eq_some_iff, Option.pure_def,
    Option.some.injEq, Prod.mk.injEq] at read
  obtain ⟨⟨_, after⟩, marked, rfl, rfl⟩ := read
  obtain ⟨first, wholeFirst, isFirst⟩ := sound_optionally sound_places text
  obtain ⟨second, wholeSecond, isSecond⟩ :=
    sound_optionally (sound_placesAfter (show [':'] ∈ marks by decide)) (optionally places text).2
  obtain ⟨arrow, wholeArrow, isArrow⟩ := isMark_of_mark (by decide) marked
  obtain ⟨third, wholeThird, isThird⟩ := sound_optionally sound_inhibitors after
  refine ⟨_, first ++ second ++ arrow ++ third, ?_, .arrow isFirst isSecond isArrow isThird, rfl⟩
  rw [List.append_assoc, ← wholeThird, List.append_assoc, ← wholeArrow, List.append_assoc,
    ← wholeSecond, ← wholeFirst]

theorem sound_inhibiting {text rest : List Char} {asked : Condition}
    (read : inhibiting text = some (asked, rest)) :
    ∃ opening spelled, text = spelled ++ rest ∧ Opening.Spells opening spelled ∧
      opening.condition = asked := by
  simp only [inhibiting, Option.bind_eq_bind, Option.bind_eq_some_iff, Option.pure_def,
    Option.some.injEq, Prod.mk.injEq] at read
  obtain ⟨⟨labels, after⟩, listed, rfl, rfl⟩ := read
  obtain ⟨spelled, whole, isInhibitors⟩ := sound_inhibitors _ _ _ listed
  exact ⟨_, spelled, whole, .inhibition isInhibitors, rfl⟩

/-- With the number sign of a transition ahead there is no opening. -/
theorem Ahead.enabling_eq_none {text : List Char} (ahead : Ahead ['#'] text) :
    enabling text = none := by
  simp [enabling, optionally, ahead.places_eq_none,
    ahead.placesAfter_eq_none (show [':'] ∈ marks ∧ [':'] ≠ ['#'] by decide),
    ahead.mark_eq_none (show ['-', '>'] ∈ marks ∧ ['-', '>'] ≠ ['#'] by decide)]

@[inherit_doc Ahead.enabling_eq_none]
theorem Ahead.inhibiting_eq_none {text : List Char} (ahead : Ahead ['#'] text) :
    inhibiting text = none := by
  simp [inhibiting, inhibitors, ahead.places_eq_none]

/-- Behind a part that may be left out there is the mark of the part ahead, or what follows. -/
theorem ahead_of_isOptional {sign next spelled rest : List Char} {labels : List String}
    (known : sign ∈ marks) (isOptional : IsOptional (IsPlacesAfter sign) labels spelled)
    (ahead : Ahead next rest) : Ahead sign (spelled ++ rest) ∨ Ahead next (spelled ++ rest) := by
  cases isOptional with
  | absent => exact .inr ahead
  | present isPart =>
    obtain ⟨isMark, -⟩ := isPart
    rw [List.append_assoc]
    exact .inl (isMark.ahead known _)

/-- An opening with an arrow is read as one. -/
theorem enabling_arrow {consumed catalysts inhibitors : List String} {spelled rest : List Char}
    (spells : (Opening.arrow consumed catalysts inhibitors).Spells spelled)
    (ahead : Ahead ['#'] rest) :
    enabling (spelled ++ rest) = some ({ consumed, catalysts, inhibitors }, rest) := by
  obtain - | ⟨isFirst, isSecond, isArrow, isThird⟩ := spells
  rename_i first second arrow third
  have arrowAhead : Ahead ['-', '>'] (arrow ++ (third ++ rest)) := isArrow.ahead (by decide) _
  have afterFirst : EndsList (second ++ (arrow ++ (third ++ rest))) ∧
      places (second ++ (arrow ++ (third ++ rest))) = none := by
    rcases ahead_of_isOptional (by decide) isSecond arrowAhead with colon | arrow
    · exact ⟨colon.endsList (by decide), colon.places_eq_none⟩
    · exact ⟨arrow.endsList (by decide), arrow.places_eq_none⟩
  obtain ⟨foundFirst, readFirst, rfl⟩ :=
    complete_optionally complete_places isFirst afterFirst.1 afterFirst.2
  obtain ⟨foundSecond, readSecond, rfl⟩ :=
    complete_optionally (complete_placesAfter (by decide)) isSecond
      (arrowAhead.endsList (by decide)) (arrowAhead.placesAfter_eq_none (by decide))
  have noInhibitors : EventNet.Notation.inhibitors rest = none := by
    simp [EventNet.Notation.inhibitors, ahead.places_eq_none]
  obtain ⟨foundThird, readThird, rfl⟩ :=
    complete_optionally complete_inhibitors isThird trivial noInhibitors
  simp only [enabling, List.append_assoc, readFirst, readSecond, isArrow.read (by decide),
    readThird, Option.bind_eq_bind, Option.bind_some, Option.pure_def]

/-- Places with neither a colon nor an arrow behind them are no opening with an arrow. -/
theorem Ahead.enabling_places_eq_none {sign text rest : List Char} {labels : List String}
    (ahead : Ahead sign rest) (listed : places text = some (labels, rest))
    (noColon : [':'] ≠ sign) (noArrow : ['-', '>'] ≠ sign) : enabling text = none := by
  simp [enabling, optionally, listed,
    ahead.placesAfter_eq_none (show [':'] ∈ marks ∧ [':'] ≠ sign from ⟨by decide, noColon⟩),
    ahead.mark_eq_none (show ['-', '>'] ∈ marks ∧ ['-', '>'] ≠ sign from ⟨by decide, noArrow⟩)]

/-- An opening without an arrow is not read as one with an arrow. -/
theorem enabling_inhibition {labels : List String} {spelled rest : List Char}
    (spells : (Opening.inhibition labels).Spells spelled) :
    enabling (spelled ++ rest) = none := by
  obtain - | - | ⟨isPlaces, isMark⟩ := spells
  rename_i text mark
  have ahead : Ahead ['-', 'o'] (mark ++ rest) := isMark.ahead (by decide) _
  rw [List.append_assoc]
  exact ahead.enabling_places_eq_none
    (complete_places _ _ _ isPlaces (ahead.endsList (by decide))) (by decide) (by decide)

theorem inhibiting_inhibition {labels : List String} {spelled rest : List Char}
    (spells : (Opening.inhibition labels).Spells spelled) :
    inhibiting (spelled ++ rest) = some ({ inhibitors := labels }, rest) := by
  obtain - | - | isInhibitors := spells
  simp [inhibiting, complete_inhibitors _ _ _ isInhibitors trivial]

/-- What the readers of the two forms make of an opening with some text behind it. -/
def Opening.ReadFrom (text rest : List Char) : Opening → Prop
  | bare => enabling text = none ∧ inhibiting text = none ∧ text = rest
  | arrow consumed catalysts inhibitors =>
    enabling text = some ({ consumed, catalysts, inhibitors }, rest)
  | inhibition inhibitors =>
    enabling text = none ∧ inhibiting text = some ({ inhibitors }, rest)

/-- Every opening is read in front of a transition. -/
theorem Opening.Spells.readFrom {opening : Opening} {spelled rest : List Char}
    (spells : opening.Spells spelled) (ahead : Ahead ['#'] rest) :
    opening.ReadFrom (spelled ++ rest) rest := by
  cases opening with
  | bare =>
    cases spells
    exact ⟨ahead.enabling_eq_none, ahead.inhibiting_eq_none, rfl⟩
  | arrow => exact enabling_arrow spells ahead
  | inhibition => exact ⟨enabling_inhibition spells, inhibiting_inhibition spells⟩

theorem Opening.ReadFrom.condition {opening : Opening} {text rest : List Char}
    (readFrom : opening.ReadFrom text rest) :
    ∃ found, optionally Notation.condition text = (found, rest) ∧
      found.getD {} = opening.condition := by
  cases opening with
  | bare =>
    obtain ⟨noArrow, noInhibition, rfl⟩ := readFrom
    refine ⟨none, ?_, rfl⟩
    simp [optionally, Notation.condition, Reader.orElse, noArrow, noInhibition]
  | arrow consumed catalysts inhibitors =>
    have withArrow : enabling text = some (⟨consumed, catalysts, inhibitors⟩, rest) := readFrom
    exact ⟨some _, by simp [optionally, Notation.condition, Reader.orElse, withArrow], rfl⟩
  | inhibition inhibitors =>
    obtain ⟨noArrow, inhibited⟩ := readFrom
    refine ⟨some _, ?_, rfl⟩
    simp [optionally, Notation.condition, Reader.orElse, noArrow, inhibited]

/-- A text has one opening at most. -/
theorem Opening.ReadFrom.unique {first second : Opening} {text firstRest secondRest : List Char}
    (isFirst : first.ReadFrom text firstRest) (isSecond : second.ReadFrom text secondRest) :
    first = second ∧ firstRest = secondRest := by
  cases first <;> cases second <;> grind [Opening.ReadFrom]

theorem Opening.Spells.unique {first second : Opening}
    {firstSpelled firstRest secondSpelled secondRest : List Char}
    (isFirst : first.Spells firstSpelled) (firstAhead : Ahead ['#'] firstRest)
    (isSecond : second.Spells secondSpelled) (secondAhead : Ahead ['#'] secondRest)
    (same : firstSpelled ++ firstRest = secondSpelled ++ secondRest) :
    first = second ∧ firstRest = secondRest := by
  have read := isFirst.readFrom firstAhead
  rw [same] at read
  exact read.unique (isSecond.readFrom secondAhead)

/-! ## Sentences -/

/-- What stands behind the opening of a clause starts with a number sign. -/
theorem IsTransitions.ahead {labels : List String} {spelled : List Char}
    (isTransitions : IsTransitions labels spelled) (rest : List Char) :
    Ahead ['#'] (spelled ++ rest) := by
  obtain ⟨isMark, -⟩ | ⟨⟨isMark, -⟩, -, -⟩ := isTransitions
  · rw [List.append_assoc]
    exact isMark.ahead (by decide) _
  · rw [List.append_assoc, List.append_assoc, List.append_assoc]
    exact isMark.ahead (by decide) _

/-- What stands behind the transitions of a clause ends their list. -/
theorem endsList_products {products : List String} {spelled stop : List Char}
    (isProducts : IsOptional (IsPlacesAfter ['-', '>']) products spelled)
    (isStop : IsMark ['.'] stop) (rest : List Char) :
    EndsList (spelled ++ (stop ++ rest)) := by
  rcases ahead_of_isOptional (by decide) isProducts (isStop.ahead (by decide) rest) with
    arrow | stop
  · exact arrow.endsList (by decide)
  · exact stop.endsList (by decide)

/-- The products of a clause are read up to its full stop. -/
theorem read_products {products : List String} {spelled rest : List Char}
    (isProducts : IsOptional (IsPlacesAfter ['-', '>']) products spelled)
    (ahead : Ahead ['.'] rest) :
    ∃ found, optionally (placesAfter ['-', '>']) (spelled ++ rest) = (found, rest) ∧
      found.getD [] = products :=
  complete_optionally (complete_placesAfter (by decide)) isProducts (ahead.endsList (by decide))
    (ahead.placesAfter_eq_none (by decide))

/-- A clause is read as its statements. -/
theorem complete_clause {opening : Opening} {transitions products : List String}
    {spelled : List Char} (spells : (Sentence.clause opening transitions products).Spells spelled)
    (rest : List Char) :
    clause (spelled ++ rest) =
      some ((Sentence.clause opening transitions products).statements, rest) := by
  obtain - | ⟨isOpening, isTransitions, isProducts, isStop⟩ := spells
  rename_i first second third stop
  have stopAhead : Ahead ['.'] (stop ++ rest) := isStop.ahead (by decide) rest
  obtain ⟨asked, readOpening, condition⟩ :=
    (isOpening.readFrom (isTransitions.ahead (third ++ (stop ++ rest)))).condition
  have readTransitions :=
    complete_transitions _ _ _ isTransitions (endsList_products isProducts isStop rest)
  obtain ⟨found, readProducts, rfl⟩ := read_products isProducts stopAhead
  simp only [clause, List.append_assoc, readOpening, readTransitions, readProducts,
    isStop.read (by decide), condition, clauseArcs_condition, Option.bind_eq_bind,
    Option.bind_some, Option.pure_def, Sentence.statements]

/-- A factual sentence is not read as a clause, but as its statement. -/
theorem complete_factual {labels : List String} {spelled : List Char}
    (spells : (Sentence.factual labels).Spells spelled) (rest : List Char) :
    clause (spelled ++ rest) = none ∧
      factual (spelled ++ rest) = some ((Sentence.factual labels).statements, rest) := by
  obtain ⟨isBefore⟩ := spells
  refine ⟨?_, ?_⟩
  · obtain ⟨isPlaces, isStop⟩ := isBefore
    rename_i text stop
    have stopAhead : Ahead ['.'] (stop ++ rest) := isStop.ahead (by decide) rest
    have listed := complete_places _ _ _ isPlaces (stopAhead.endsList (by decide))
    have noArrow : enabling (text ++ (stop ++ rest)) = none :=
      stopAhead.enabling_places_eq_none listed (by decide) (by decide)
    have noInhibition : inhibiting (text ++ (stop ++ rest)) = none := by
      simp [inhibiting, inhibitors, listed,
        stopAhead.mark_eq_none (show ['-', 'o'] ∈ marks ∧ ['-', 'o'] ≠ ['.'] by decide)]
    have noTransition : transitions (text ++ (stop ++ rest)) = none := by
      rw [places, commaSeparated_eq, Option.map_eq_some_iff] at listed
      obtain ⟨⟨name, after⟩, named, -⟩ := listed
      refine commaSeparated_eq_none ?_
      simp [transition, mark_eq_none_of_label (show ['#'] ∈ marks by decide) named]
    simp [clause, optionally, condition, Reader.orElse, noArrow, noInhibition, noTransition]
  · rw [factual_eq, complete_placesBefore (by decide) (by decide) _ _ _ isBefore trivial]
    rfl

/-- **A sentence is read as the statements that it stands for**, whatever follows. -/
theorem statement_of_spells {sentence : Sentence} {spelled : List Char}
    (spells : sentence.Spells spelled) (rest : List Char) :
    statement (spelled ++ rest) = some (sentence.statements, rest) := by
  cases sentence with
  | factual labels =>
    obtain ⟨noClause, read⟩ := complete_factual spells rest
    simp only [statement, Reader.orElse, noClause, read]
  | clause opening transitions products =>
    simp only [statement, Reader.orElse, complete_clause spells rest]

theorem sound_condition (text : List Char) :
    ∃ opening spelled, text = spelled ++ (optionally condition text).2 ∧
      Opening.Spells opening spelled ∧
        opening.condition = (optionally condition text).1.getD {} := by
  unfold optionally
  split
  · exact ⟨.bare, [], rfl, .bare, rfl⟩
  · rename_i asked rest read
    unfold condition Reader.orElse at read
    split at read
    · rename_i found withArrow
      cases read
      exact sound_enabling withArrow
    · exact sound_inhibiting read

/-- **What is read as statements is a sentence that stands for them.** -/
theorem spells_of_statement {text rest : List Char} {statements : List Statement}
    (read : statement text = some (statements, rest)) :
    ∃ (sentence : Sentence) (spelled : List Char), text = spelled ++ rest ∧
      sentence.Spells spelled ∧ sentence.statements = statements := by
  unfold statement Reader.orElse at read
  split at read
  · rename_i found asClause
    cases read
    simp only [clause, Option.bind_eq_bind, Option.bind_eq_some_iff, Option.pure_def,
      Option.some.injEq, Prod.mk.injEq] at asClause
    obtain ⟨⟨labels, after⟩, listed, ⟨_, last⟩, marked, rfl, rfl⟩ := asClause
    obtain ⟨opening, first, wholeFirst, isOpening, asked⟩ := sound_condition text
    obtain ⟨second, wholeSecond, isTransitions⟩ := sound_transitions _ _ _ listed
    obtain ⟨third, wholeThird, isProducts⟩ :=
      sound_optionally (sound_placesAfter (show ['-', '>'] ∈ marks by decide)) after
    obtain ⟨stop, wholeStop, isStop⟩ := isMark_of_mark (by decide) marked
    refine ⟨_, first ++ second ++ third ++ stop, ?_,
      .clause isOpening isTransitions isProducts isStop, ?_⟩
    · rw [List.append_assoc, ← wholeStop, List.append_assoc, ← wholeThird, List.append_assoc,
        ← wholeSecond, ← wholeFirst]
    · rw [← asked, clauseArcs_condition, Sentence.statements]
  · rw [factual_eq, Option.map_eq_some_iff] at read
    obtain ⟨⟨labels, after⟩, listed, found⟩ := read
    cases found
    obtain ⟨spelled, whole, isBefore⟩ := sound_placesBefore (by decide) _ _ _ listed
    exact ⟨.factual labels, spelled, whole, .factual isBefore, rfl⟩

/-- A text starts with one clause at most: its parts are found one after another. -/
theorem clause_unique {opening opening' : Opening}
    {transitions products transitions' products' : List String}
    {firstSpelled firstRest secondSpelled secondRest : List Char}
    (isFirst : (Sentence.clause opening transitions products).Spells firstSpelled)
    (isSecond : (Sentence.clause opening' transitions' products').Spells secondSpelled)
    (same : firstSpelled ++ firstRest = secondSpelled ++ secondRest) :
    Sentence.clause opening transitions products =
        Sentence.clause opening' transitions' products' ∧ firstRest = secondRest := by
  obtain - | ⟨isOpening, isTransitions, isProducts, isStop⟩ := isFirst
  obtain - | ⟨isOpening', isTransitions', isProducts', isStop'⟩ := isSecond
  simp only [List.append_assoc] at same
  obtain ⟨rfl, same⟩ :=
    isOpening.unique (isTransitions.ahead _) isOpening' (isTransitions'.ahead _) same
  obtain ⟨rfl, same⟩ := complete_transitions.unique
    isTransitions (endsList_products isProducts isStop firstRest)
    isTransitions' (endsList_products isProducts' isStop' secondRest) same
  obtain ⟨found, readProducts, rfl⟩ := read_products isProducts (isStop.ahead (by decide) firstRest)
  obtain ⟨found', readProducts', rfl⟩ :=
    read_products isProducts' (isStop'.ahead (by decide) secondRest)
  rw [same, readProducts'] at readProducts
  obtain ⟨rfl, same⟩ := Prod.mk.inj readProducts
  have stopped := isStop.read (by decide) firstRest
  rw [← same, isStop'.read (by decide)] at stopped
  cases stopped
  exact ⟨rfl, rfl⟩

/-- A text starts with one sentence at most. -/
theorem Sentence.Spells.unique {first second : Sentence}
    {firstSpelled firstRest secondSpelled secondRest : List Char}
    (isFirst : first.Spells firstSpelled) (isSecond : second.Spells secondSpelled)
    (same : firstSpelled ++ firstRest = secondSpelled ++ secondRest) :
    first = second ∧ firstRest = secondRest := by
  cases first with
  | factual labels =>
    cases second with
    | factual others =>
      obtain ⟨isBefore⟩ := isFirst
      obtain ⟨isOther⟩ := isSecond
      obtain ⟨rfl, rest⟩ := (complete_placesBefore (by decide) (by decide)).unique
        isBefore trivial isOther trivial same
      exact ⟨rfl, rest⟩
    | clause opening transitions products =>
      have noClause := (complete_factual isFirst firstRest).1
      rw [same, complete_clause isSecond secondRest] at noClause
      cases noClause
  | clause opening transitions products =>
    cases second with
    | factual others =>
      have noClause := (complete_factual isSecond secondRest).1
      rw [← same, complete_clause isFirst firstRest] at noClause
      cases noClause
    | clause opening' transitions' products' =>
      exact clause_unique isFirst isSecond same

/-! ## Layout in front of a sentence -/

theorem ignoresLayout_condition : IgnoresLayout condition := by
  intro text other same
  obtain ⟨sameConsumed, afterConsumed⟩ := optionally_congr ignoresLayout_places same
  obtain ⟨sameCatalysts, afterCatalysts⟩ :=
    optionally_congr (ignoresLayout_placesAfter [':']) afterConsumed
  have sameEnabling : enabling text = enabling other := by
    simp only [enabling, sameConsumed, sameCatalysts,
      ignoresLayout_mark ['-', '>'] _ _ afterCatalysts]
  have sameInhibiting : inhibiting text = inhibiting other := by
    rw [inhibiting, inhibiting, ignoresLayout_inhibitors text other same]
  rw [condition, Reader.orElse, Reader.orElse, sameEnabling, sameInhibiting]

theorem ignoresLayout_statement : IgnoresLayout statement := by
  intro text other same
  obtain ⟨sameCondition, afterCondition⟩ := optionally_congr ignoresLayout_condition same
  have sameClause : clause text = clause other := by
    simp only [clause, sameCondition, ignoresLayout_transitions _ _ afterCondition]
  have sameFactual : factual text = factual other := by
    rw [factual, factual, ignoresLayout_places text other same]
  rw [statement, Reader.orElse, Reader.orElse, sameClause, sameFactual]

end EventNet.Notation
