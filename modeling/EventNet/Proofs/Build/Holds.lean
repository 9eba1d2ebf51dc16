import EventNet.Proofs.Build.Calls
import EventNet.Proofs.Build.Contents
import EventNet.Proofs.Net.Snapshot

/-!
# What is built from statements

What a builder holds at any time is related to the contents of the statements it has taken in
(`Builder.Holds`). Arcs are compared by the names of their places, so that the relation does
not depend on how places are numbered.

Each part of a statement adds to the contents what it says, however faulty the rest is: a
label is mentioned (`Builder.Holds.place`), a fact marks its place
(`Builder.Holds.pushFact`), and an arc of a clause is added if it is kept
(`Builder.Holds.pushArc`). So does a list of statements (`Builder.holds_ofStatements`).
-/

set_option autoImplicit false

namespace EventNet

/-- An arc by its transition, its kind and the name of its place. -/
def Net.described (net : Net) (arc : Arc) : TransitionId × ArcKind × Option String :=
  (arc.transition, arc.kind, net.placeName? arc.place)

/-- Arcs are described by the names of places alone. -/
theorem Net.described_congr {first second : Net}
    (names : first.places.map Place.name = second.places.map Place.name) :
    first.described = second.described := by
  funext arc
  simp only [described, placeName?, ← List.getElem?_map, names]

/-- To change the place with a name is to change the places with this name. -/
theorem Net.modify_places_eq (net : Net) (distinct : (net.places.map Place.name).Nodup)
    {id : PlaceId} {label : String} (named : net.placeName? id = some label)
    (change : Place → Place) :
    net.places.modify id change =
      net.places.map fun place => if place.name = label then change place else place := by
  refine List.ext_getElem? ?_
  intro other
  rw [List.getElem?_modify, List.getElem?_map]
  cases found : net.places[other]? with
  | none => rfl
  | some entry =>
    have namedOther : net.placeName? other = some entry.name :=
      congrArg (Option.map Place.name) found
    simp only [Option.map_eq_map, Option.map_some, Option.some_inj]
    by_cases here : id = other
    · subst here
      have same : entry.name = label := Option.some.inj (namedOther.symm.trans named)
      rw [if_pos rfl, if_pos same]
    · have different : entry.name ≠ label := by
        rintro rfl
        exact here (place_eq_of_placeName? distinct named namedOther)
      rw [if_neg here, if_neg different]

namespace Builder

/-! ## Builders and contents -/

/-- The first value stands before the others. -/
theorem toList_append_filterMap {α β : Type} (value? : α → Option β) (item : α)
    (items : List α) :
    (value? item).toList ++ items.filterMap value? = (item :: items).filterMap value? := by
  rw [List.filterMap_cons]
  cases value? item <;> rfl

section Labels

variable {builder : Builder} {index : Nat} {text label : String}

/-- A blank label has no place and is reported. -/
theorem placeOf?_of_blank (blank : labelOf? text = none) :
    builder.placeOf? index text = (none, builder.report index .emptyLabel) := by
  simp only [placeOf?, if_pos (labelOf?_eq_none_iff.1 blank)]

/-- A label leads to its place when trimmed. -/
theorem placeOf?_of_label (labelled : labelOf? text = some label) :
    builder.placeOf? index text = (some (builder.place label).1, (builder.place label).2) := by
  obtain ⟨notBlank, trimmed⟩ := labelOf?_eq_some_iff.1 labelled
  simp only [placeOf?, trimmed, if_neg notBlank]

end Labels

/-- A sound builder whose net has these contents. -/
structure Holds (builder : Builder) (contents : Contents) : Prop where
  sound : builder.Sound
  places_eq : builder.net.places = contents.places
  facts_subset : contents.facts ⊆ contents.mentioned
  names_eq : builder.net.transitions.map Transition.name = contents.instances.map Prod.fst
  arcs_eq : builder.net.arcs.map builder.net.described =
    contents.arcs.map fun entry => (entry.1, entry.2.1, some entry.2.2)

theorem holds_empty : ({} : Builder).Holds {} where
  sound := sound_empty
  places_eq := rfl
  facts_subset := List.nil_subset _
  names_eq := rfl
  arcs_eq := rfl

namespace Holds

variable {builder : Builder} {contents : Contents} (holds : builder.Holds contents)
include holds

theorem mem_names {name : String} :
    name ∈ builder.net.places.map Place.name ↔ name ∈ contents.mentioned := by
  rw [holds.places_eq, contents.names_places, List.mem_eraseDups]

theorem length_transitions : builder.net.transitions.length = contents.instances.length := by
  have length := congrArg List.length holds.names_eq
  rwa [List.length_map, List.length_map] at length

/-- The arcs of the net are those of the contents. -/
theorem hasArc_iff {kind : ArcKind} {transition : TransitionId} {place : PlaceId} :
    builder.net.HasArc kind transition place ↔ ∃ label,
      builder.net.placeName? place = some label ∧ (transition, kind, label) ∈ contents.arcs := by
  constructor
  · intro arc
    have described := List.mem_map_of_mem (f := builder.net.described) arc
    rw [holds.arcs_eq, List.mem_map] at described
    obtain ⟨⟨other, sort, label⟩, listed, same⟩ := described
    simp only [Net.described, Prod.mk.injEq] at same
    obtain ⟨rfl, rfl, named⟩ := same
    exact ⟨label, named.symm, listed⟩
  · rintro ⟨label, named, listed⟩
    have described := List.mem_map_of_mem
      (f := fun entry : TransitionId × ArcKind × String => (entry.1, entry.2.1, some entry.2.2))
      listed
    rw [← holds.arcs_eq, List.mem_map] at described
    obtain ⟨arc, inTable, same⟩ := described
    simp only [Net.described, Prod.mk.injEq] at same
    obtain ⟨rfl, rfl, namedOther⟩ := same
    have distinct := holds.sound.wellBuilt.place_names_nodup
    obtain rfl := Net.place_eq_of_placeName? distinct namedOther named
    exact inTable

/-! ## Places -/

theorem report (index : Nat) (fault : BuildFault) :
    (builder.report index fault).Holds contents :=
  ⟨(holds.sound.extends_report index fault).sound, holds.places_eq, holds.facts_subset,
    holds.names_eq, holds.arcs_eq⟩

/-- Further places leave the descriptions of the arcs as they are. -/
theorem described_eq {after : Builder} (extension : builder.Extends after) :
    builder.net.arcs.map after.net.described = builder.net.arcs.map builder.net.described := by
  refine List.map_congr_left ?_
  intro arc listed
  obtain ⟨label, named, -⟩ := holds.hasArc_iff.1 listed
  simp only [Net.described, named, extension.placeName? named]

/-- **A label is mentioned once more**, and if it is new it is a place that is no fact. -/
theorem place (label : String) : (builder.place label).2.Holds (contents.mention [label]) := by
  have extension := holds.sound.extends_place label
  have described := holds.described_eq extension
  have subset : contents.facts ⊆ contents.mentioned ++ [label] :=
    List.Subset.trans holds.facts_subset (List.subset_append_left _ _)
  unfold Builder.place at extension described ⊢
  split
  · rename_i id found
    have known : label ∈ contents.mentioned :=
      holds.mem_names.1 (Net.mem_names_of_placeName? (holds.sound.placeName?_of_find? found))
    refine ⟨holds.sound, ?_, subset, holds.names_eq, holds.arcs_eq⟩
    rw [Contents.places_mention, if_pos known]
    exact holds.places_eq
  · rename_i unknown
    simp only [unknown] at extension described
    have fresh : label ∉ contents.mentioned :=
      mt holds.mem_names.2 (holds.sound.fresh_of_find? unknown)
    have unmarked : ({ name := label } : Place) =
        { name := label, factual := decide (label ∈ contents.facts) } := by
      rw [decide_eq_false (mt (fun fact => holds.facts_subset fact) fresh)]
    refine ⟨extension.sound, ?_, subset, holds.names_eq, described.trans holds.arcs_eq⟩
    rw [Contents.places_mention, if_neg fresh, ← unmarked, ← holds.places_eq]
    rfl

/-- A text that is a label when trimmed is mentioned as this label. -/
theorem placeOf? (index : Nat) (text : String) :
    (builder.placeOf? index text).2.Holds (contents.mention (labelOf? text).toList) := by
  cases labelled : labelOf? text with
  | none =>
    rw [placeOf?_of_blank labelled, Option.toList_none, Contents.mention, List.append_nil]
    exact holds.report index .emptyLabel
  | some label =>
    rw [placeOf?_of_label labelled]
    exact holds.place label

/-- A fact is mentioned, and its place is marked at the start. -/
theorem pushFact (index : Nat) (text : String) :
    (pushFact index builder text).Holds (contents.assert (labelOf? text).toList) := by
  have sound := (holds.sound.extends_pushFact index text).sound
  unfold Builder.pushFact at sound ⊢
  cases labelled : labelOf? text with
  | none =>
    rw [placeOf?_of_blank labelled, Option.toList_none, Contents.assert, Contents.mention,
      List.append_nil, List.append_nil]
    exact holds.report index .emptyLabel
  | some label =>
    rw [placeOf?_of_label labelled] at sound ⊢
    have placed := holds.place label
    have named := holds.sound.placeName?_place label
    generalize builder.place label = result at *
    obtain ⟨place, after⟩ := result
    dsimp only at *
    have described : Net.described { after.net with
        places := after.net.places.modify place fun entry => { entry with factual := true } } =
          after.net.described := by
      refine Net.described_congr (map_modify_of_eq ?_ _ _)
      exact fun _ => rfl
    refine ⟨sound, ?_, ?_, placed.names_eq, ?_⟩
    · rw [Option.toList_some, Contents.assert]
      refine Eq.trans ?_ (Contents.places_assert (contents.mention [label]) label).symm
      rw [← placed.places_eq]
      exact after.net.modify_places_eq placed.sound.wellBuilt.place_names_nodup named _
    · exact List.append_subset.2 ⟨placed.facts_subset, List.subset_append_right _ _⟩
    · rw [described]
      exact placed.arcs_eq

/-! ## Transition instances -/

/-- A new instance has no arcs yet. -/
theorem pushInstance (index : Nat) (label : String) :
    (builder.pushInstance index label).2.Holds
      { contents with instances := contents.instances ++ [(label, [])] } := by
  refine ⟨(holds.sound.extends_pushInstance index label).sound, holds.places_eq,
    holds.facts_subset, ?_, ?_⟩
  · simp only [Builder.pushInstance, Net.addTransition, List.map_append, holds.names_eq,
      List.map_cons, List.map_nil]
  · rw [Contents.arcs_concat, List.map_nil, List.append_nil]
    exact holds.arcs_eq

end Holds

section Arcs

variable {builder : Builder} {mentioned facts : List String}
variable {instances : List (String × List (ArcKind × String))} {name : String}
variable {kept : List (ArcKind × String)}

/-- The arcs of the instance that is being made. -/
theorem Holds.hasArc_last_iff
    (holds : builder.Holds { mentioned, facts, instances := instances ++ [(name, kept)] })
    {place : PlaceId} {label : String} (named : builder.net.placeName? place = some label)
    {kind : ArcKind} :
    builder.net.HasArc kind instances.length place ↔ (kind, label) ∈ kept := by
  rw [holds.hasArc_iff]
  simp only [named, Option.some_inj, exists_eq_left', Contents.mem_arcs,
    List.getElem?_concat_length, Prod.mk.injEq]
  constructor
  · rintro ⟨_, _, ⟨rfl, rfl⟩, listed⟩
    exact listed
  · intro listed
    exact ⟨name, kept, ⟨rfl, rfl⟩, listed⟩

/-- Something is in the way of an arc of this instance if a kept arc contradicts it. -/
theorem Holds.conflictingKind?_last_eq_none_iff
    (holds : builder.Holds { mentioned, facts, instances := instances ++ [(name, kept)] })
    {place : PlaceId} {label : String} (named : builder.net.placeName? place = some label)
    {kind : ArcKind} :
    conflictingKind? builder.net place instances.length kind = none ↔
      ¬∃ other ∈ kept, other.2 = label ∧ contradicts other.1 kind = true := by
  rw [conflictingKind?_eq_none_iff holds.sound.consistent]
  constructor
  · rintro free ⟨⟨other, _⟩, listed, rfl, contradicting⟩
    have agrees := free other ((holds.hasArc_last_iff named).2 listed)
    rw [contradicting] at agrees
    cases agrees
  · intro free other arc
    refine Bool.eq_false_iff.2 ?_
    intro contradicting
    exact free ⟨(other, label), (holds.hasArc_last_iff named).1 arc, rfl, contradicting⟩

/-- An arc of this instance is there already if it has been kept. -/
theorem Holds.findArc?_last_eq_none_iff
    (holds : builder.Holds { mentioned, facts, instances := instances ++ [(name, kept)] })
    {place : PlaceId} {label : String} (named : builder.net.placeName? place = some label)
    {kind : ArcKind} :
    builder.net.findArc? place instances.length kind = none ↔ (kind, label) ∉ kept := by
  rw [holds.sound.consistent.findArc?_eq_none_iff, holds.hasArc_last_iff named]

/-- A further arc of the instance that is being made. -/
theorem Holds.appendArc
    (holds : builder.Holds { mentioned, facts, instances := instances ++ [(name, kept)] })
    {place : PlaceId} {label : String} (named : builder.net.placeName? place = some label)
    {kind : ArcKind}
    (sound : ({ builder with net := builder.net.appendArc ⟨place, instances.length, kind⟩ } :
      Builder).Sound) :
    ({ builder with net := builder.net.appendArc ⟨place, instances.length, kind⟩ } :
      Builder).Holds
        { mentioned, facts, instances := instances ++ [(name, kept ++ [(kind, label)])] } := by
  refine ⟨sound, holds.places_eq, holds.facts_subset, ?_, ?_⟩
  · rw [Net.names_appendArc, holds.names_eq]
    simp only [List.map_append, List.map_cons, List.map_nil]
  · have older := holds.arcs_eq
    have described : (builder.net.appendArc ⟨place, instances.length, kind⟩).described =
        builder.net.described := Net.described_congr rfl
    have new : builder.net.described ⟨place, instances.length, kind⟩ =
        (instances.length, kind, some label) := by
      simp only [Net.described, named]
    rw [Contents.arcs_concat] at older ⊢
    rw [described, Net.appendArc, List.map_append, older, List.map_singleton, new]
    simp only [List.map_append, List.map_cons, List.map_nil, List.append_assoc]

/-- **An arc of a clause is added if it is kept.** -/
theorem Holds.pushArc
    (holds : builder.Holds { mentioned, facts, instances := instances ++ [(name, kept)] })
    (index : Nat) (text : String) (arc : ArcKind × String) :
    (pushArc index text instances.length builder arc).Holds
      { mentioned := mentioned ++ (labelOf? arc.2).toList
        facts
        instances := instances ++ [(name, keepArc kept arc)] } := by
  obtain ⟨kind, written⟩ := arc
  have inTransitions : instances.length < builder.net.transitions.length := by
    rw [holds.length_transitions, List.length_append, List.length_singleton]
    exact Nat.lt_succ_self _
  unfold Builder.pushArc keepArc
  cases labelled : labelOf? written with
  | none =>
    rw [placeOf?_of_blank labelled, Option.toList_none, List.append_nil]
    exact holds.report index .emptyLabel
  | some label =>
    have placed := holds.place label
    have named := holds.sound.placeName?_place label
    have inTransitions := Nat.lt_of_lt_of_le inTransitions
      (holds.sound.extends_place label).transitions_le
    rw [placeOf?_of_label labelled]
    generalize builder.place label = result at *
    obtain ⟨place, after⟩ := result
    dsimp only at *
    have free_iff : conflictingKind? after.net place instances.length kind = none ↔
        ¬∃ other ∈ kept, other.2 = label ∧ contradicts other.1 kind = true :=
      placed.conflictingKind?_last_eq_none_iff named
    cases conflict : conflictingKind? after.net place instances.length kind with
    | some previous =>
      have contradicted : ∃ other ∈ kept, other.2 = label ∧ contradicts other.1 kind = true := by
        by_contra free
        rw [free_iff.2 free] at conflict
        cases conflict
      rw [if_pos (.inr contradicted)]
      exact placed.report index _
    | none =>
      have free := free_iff.1 conflict
      have inPlaces := Net.lt_of_placeName? named
      obtain ⟨id, net, added, extension⟩ := placed.sound.extends_addArc inPlaces inTransitions
        conflict
      rw [added]
      obtain ⟨-, -, ⟨found, rfl⟩ | ⟨absent, -, rfl⟩⟩ := Net.addArc_eq_ok_iff.1 added
      · -- the arc is there already, since a search has found it
        have there : (kind, label) ∈ kept := by
          by_contra missing
          rw [(placed.findArc?_last_eq_none_iff named).2 missing] at found
          cases found
        rw [if_pos (.inl there)]
        exact placed
      · have missing := (placed.findArc?_last_eq_none_iff named).1 absent
        rw [if_neg (not_or.2 ⟨missing, free⟩)]
        exact placed.appendArc named extension.sound

/-- The arcs of a clause are added one after another. -/
theorem Holds.foldl_pushArc
    (holds : builder.Holds { mentioned, facts, instances := instances ++ [(name, kept)] })
    (index : Nat) (text : String) (arcs : List (ArcKind × String)) :
    (arcs.foldl (Builder.pushArc index text instances.length) builder).Holds
      { mentioned := mentioned ++ arcs.filterMap fun arc => labelOf? arc.2
        facts
        instances := instances ++ [(name, arcs.foldl keepArc kept)] } := by
  induction arcs generalizing builder mentioned kept with
  | nil =>
    rw [List.filterMap_nil, List.append_nil]
    exact holds
  | cons arc arcs ih =>
    rw [← toList_append_filterMap, ← List.append_assoc, List.foldl_cons, List.foldl_cons]
    exact ih (holds.pushArc index text arc)

end Arcs

/-! ## Statements -/

section Statements

variable {builder : Builder} {contents : Contents} (holds : builder.Holds contents)
include holds

theorem Holds.foldl_pushFact (index : Nat) (texts : List String) :
    (texts.foldl (Builder.pushFact index) builder).Holds
      (contents.assert (texts.filterMap labelOf?)) := by
  induction texts generalizing builder contents with
  | nil => simpa only [List.filterMap_nil, Contents.assert, Contents.mention, List.append_nil]
  | cons text texts ih =>
    have further := ih (holds.pushFact index text)
    rw [← toList_append_filterMap, List.foldl_cons]
    simp only [Contents.assert, Contents.mention, List.append_assoc] at further ⊢
    exact further

theorem Holds.foldl_pushMention (index : Nat) (arcs : List (ArcKind × String)) :
    (arcs.foldl (Builder.pushMention index) builder).Holds
      (contents.mention (arcs.filterMap fun arc => labelOf? arc.2)) := by
  induction arcs generalizing builder contents with
  | nil => simpa only [List.filterMap_nil, Contents.mention, List.append_nil]
  | cons arc arcs ih =>
    have further := ih (holds.placeOf? index arc.2)
    rw [← toList_append_filterMap, List.foldl_cons]
    simp only [Contents.mention, List.append_assoc] at further ⊢
    exact further

/-- **A statement adds what it says**, however faulty it is. -/
theorem Holds.push (index : Nat) (statement : Statement) :
    (builder.push index statement).Holds (contents.add [statement]) := by
  rw [contents.add_singleton]
  cases statement with
  | factual places =>
    have stated := holds.foldl_pushFact index places
    simp only [Statement.transition?, Option.toList_none, List.append_nil, Statement.mentioned,
      Statement.facts]
    cases places with
    | nil =>
      rw [Builder.push, List.filterMap_nil, List.append_nil, List.append_nil]
      exact holds.report index .emptyStatement
    | cons place places =>
      rw [Builder.push]
      · exact stated
      · exact List.cons_ne_nil place places
  | clause transition arcs =>
    cases labelled : labelOf? transition with
    | none =>
      have blank := labelOf?_eq_none_iff.1 labelled
      have stated := (holds.foldl_pushMention index arcs).report index .missingTransition
      simp only [Builder.push, if_pos blank, Statement.transition?, labelled, Statement.facts,
        Statement.mentioned, List.append_nil, Option.map_none, Option.toList_none]
      exact stated
    | some label =>
      obtain ⟨notBlank, trimmed⟩ := labelOf?_eq_some_iff.1 labelled
      have last : (builder.pushInstance index label).1 = contents.instances.length :=
        holds.length_transitions
      have stated := (holds.pushInstance index label).foldl_pushArc index label arcs
      simp only [Builder.push, trimmed, if_neg notBlank, last, Statement.transition?, labelled,
        Statement.facts, Statement.mentioned, List.append_nil, Option.map_some, Option.toList_some]
      exact stated

/-- What statements add one after another. -/
theorem Holds.pushAll (index : Nat) (statements : List Statement) :
    (builder.pushAll index statements).Holds (contents.add statements) := by
  induction statements generalizing builder contents index with
  | nil =>
    simp only [Contents.add, List.flatMap_nil, List.filterMap_nil, List.append_nil]
    exact holds
  | cons statement statements ih =>
    rw [contents.add_cons]
    exact ih (holds.push index statement) (index + 1)

end Statements

/-- **A net contains what the statements say that it is built from.** -/
theorem holds_ofStatements (statements : List Statement) :
    (ofStatements statements).Holds (Contents.add {} statements) :=
  holds_empty.pushAll 0 statements

end Builder

end EventNet
