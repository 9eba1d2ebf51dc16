import EventNet.Proofs.Run.Barren

/-!
# How far a diagnosis reaches

What a diagnosis reports is barren (`Net.Consistent.barren_of_reports`). The converse is about
single places, by their position and their name. In a consistent net a place is listed as
isolated when it is unmarked at the start and has no arcs
(`Net.Consistent.mem_isolatedPlaces_iff`), and there is a warning about it when it is barren
and some instance asks for a token on it (`Net.Consistent.mem_warnings_iff`).

A barren place has no arc that produces. So either it has no arcs, or one that consumes from it
or has it for a catalyst, or nothing but inhibitors (`Net.Barren.onlyInhibits_iff`). In the
first two cases it is reported and in the third it is not: the places that only inhibit are
exactly the barren places that a diagnosis overlooks (`diagnosis_reaches`). They never become
marked and so their inhibitors never stop an instance, but a net with such a place can be
without any issue (`shunned_overlooked`).
-/

set_option autoImplicit false

namespace EventNet

namespace Net

/-- No arc joins the place to anything. -/
def Arcless (net : Net) (place : PlaceId) : Prop :=
  ∀ kind transition, ¬net.HasArc kind transition place

/-- Some instance asks for a token on the place. -/
def Required (net : Net) (place : PlaceId) : Prop :=
  ∃ transition, net.HasArc .consume transition place ∨ net.HasArc .catalyst transition place

/-- There are arcs at the place, and all of them inhibit. -/
structure OnlyInhibits (net : Net) (place : PlaceId) : Prop where
  inhibits : ∃ transition, net.HasArc .inhibit transition place
  eq_inhibit : ∀ kind transition, net.HasArc kind transition place → kind = .inhibit

/-! ## The tests of a diagnosis -/

section Tests

variable {net : Net} {place : PlaceId}

/-- The index of a place is searched for a kind exactly as the arc table is. -/
theorem Consistent.any_arcsAt_iff (consistent : net.Consistent) (test : ArcKind → Bool) :
    ((net.arcsAt place).any fun arc => test arc.kind) = true ↔
      ∃ kind transition, test kind = true ∧ net.HasArc kind transition place := by
  rw [List.any_eq_true]
  constructor
  · rintro ⟨arc, listed, passes⟩
    obtain ⟨inTable, rfl⟩ := consistent.mem_arcsAt.1 listed
    exact ⟨arc.kind, arc.transition, passes, inTable⟩
  · rintro ⟨kind, transition, passes, arc⟩
    exact ⟨_, consistent.mem_arcsAt.2 ⟨arc, rfl⟩, passes⟩

/-- An index without entries is that of a place without arcs. -/
theorem Consistent.isolatedPlace_iff (consistent : net.Consistent) :
    net.isolatedPlace place = true ↔ net.Arcless place := by
  constructor
  · exact consistent.not_hasArc_of_isolated
  · intro arcless
    unfold isolatedPlace
    cases found : net.placeArcs[place]? with
    | none => rfl
    | some index =>
      rw [Option.all_some, List.isEmpty_iff, List.eq_nil_iff_forall_not_mem]
      intro id listed
      obtain ⟨arc, atId, rfl⟩ := consistent.place_lists place index found id listed
      exact arcless arc.kind arc.transition (List.mem_of_getElem? atId)

/-- The test for places that are only required finds those that some instance asks for and
none produces. -/
theorem Consistent.requiredOnly_iff (consistent : net.Consistent) :
    net.requiredOnly place = true ↔
      net.Required place ∧ ∀ transition, ¬net.HasArc .produce transition place := by
  have required : ((net.arcsAt place).any fun arc => arc.kind.requiresToken) = true ↔
      net.Required place := by
    rw [consistent.any_arcsAt_iff]
    constructor
    · rintro ⟨kind, transition, asks, arc⟩
      cases kind with
      | consume => exact ⟨transition, .inl arc⟩
      | catalyst => exact ⟨transition, .inr arc⟩
      | produce => cases asks
      | inhibit => cases asks
    · rintro ⟨transition, arc | arc⟩
      · exact ⟨.consume, transition, rfl, arc⟩
      · exact ⟨.catalyst, transition, rfl, arc⟩
  have produced : ((net.arcsAt place).any fun arc => arc.kind == .produce) = true ↔
      ∃ transition, net.HasArc .produce transition place := by
    rw [consistent.any_arcsAt_iff fun kind => kind == .produce]
    simp only [beq_iff_eq, exists_and_left, exists_eq_left]
  rw [requiredOnly, Bool.and_eq_true, required, Bool.not_eq_true', ← Bool.not_eq_true, produced,
    not_exists]

end Tests

/-! ## What is said about a place -/

/-- Of the places of a list, those that pass a test are listed with their positions and
names. -/
theorem mem_filterMap_zipIdx_iff {places : List Place} {place : PlaceId} {entry : Place}
    (found : places[place]? = some entry) (passes : Place × PlaceId → Bool) (name : String) :
    (place, name) ∈ (places.zipIdx.filterMap fun listed =>
        if passes listed then some (listed.2, listed.1.name) else none) ↔
      passes (entry, place) = true ∧ entry.name = name := by
  simp only [List.mem_filterMap, Option.ite_none_right_eq_some, Option.some.injEq, Prod.mk.injEq]
  constructor
  · rintro ⟨⟨other, id⟩, listed, passed, rfl, named⟩
    rw [List.mem_zipIdx_iff_getElem?, found] at listed
    cases listed
    exact ⟨passed, named⟩
  · rintro ⟨passed, named⟩
    exact ⟨(entry, place), List.mem_zipIdx_iff_getElem?.2 found, passed, rfl, named⟩

section Places

variable {net : Net} {place : PlaceId} {entry : Place}

theorem barren_iff (found : net.places[place]? = some entry) :
    net.Barren place ↔
      entry.factual = false ∧ ∀ transition, ¬net.HasArc .produce transition place := by
  constructor
  · intro barren
    exact ⟨barren.not_factual entry found, barren.not_produced⟩
  · rintro ⟨unmarked, unproduced⟩
    refine ⟨?_, unproduced⟩
    intro other there
    rw [found] at there
    cases there
    exact unmarked

/-- **A place is listed as isolated when it is unmarked at the start and has no arcs**, and
it is listed under its own name. -/
theorem Consistent.mem_isolatedPlaces_iff (consistent : net.Consistent)
    (found : net.places[place]? = some entry) (name : String) :
    (place, name) ∈ net.diagnose.isolatedPlaces ↔
      (entry.factual = false ∧ net.Arcless place) ∧ entry.name = name := by
  have tested := mem_filterMap_zipIdx_iff found
    (fun listed => net.isolatedPlace listed.2 && !listed.1.factual) name
  rw [Bool.and_eq_true, Bool.not_eq_true', consistent.isolatedPlace_iff] at tested
  exact tested.trans (and_congr_left' and_comm)

/-- A place that some instance asks for has arcs. -/
theorem Required.not_arcless (required : net.Required place) : ¬net.Arcless place := by
  obtain ⟨transition, arc | arc⟩ := required
  · exact fun arcless => arcless .consume transition arc
  · exact fun arcless => arcless .catalyst transition arc

theorem Consistent.mem_neverMarked_iff (consistent : net.Consistent)
    (found : net.places[place]? = some entry) (name : String) :
    (place, name) ∈ net.diagnose.neverMarked ↔
      (net.Barren place ∧ net.Required place) ∧ entry.name = name := by
  have tested := mem_filterMap_zipIdx_iff found
    (fun listed =>
      !net.isolatedPlace listed.2 && net.requiredOnly listed.2 && !listed.1.factual) name
  simp only [Bool.and_eq_true, Bool.not_eq_true', consistent.requiredOnly_iff] at tested
  rw [← Bool.not_eq_true (net.isolatedPlace place), consistent.isolatedPlace_iff] at tested
  refine tested.trans (and_congr_left' ?_)
  rw [barren_iff found]
  constructor
  · rintro ⟨⟨-, required, unproduced⟩, unmarked⟩
    exact ⟨⟨unmarked, unproduced⟩, required⟩
  · rintro ⟨⟨unmarked, unproduced⟩, required⟩
    exact ⟨⟨required.not_arcless, required, unproduced⟩, unmarked⟩

/-- **There is a warning that names a place when it is barren and some instance asks for a
token on it.** -/
theorem Consistent.mem_warnings_iff (consistent : net.Consistent)
    (found : net.places[place]? = some entry) :
    Diagnosis.neverMarkedText (place, entry.name) ∈ net.diagnose.warnings ↔
      net.Barren place ∧ net.Required place := by
  constructor
  · intro warned
    obtain ⟨other, listed⟩ := Diagnosis.exists_of_mem_warnings warned
    exact ((consistent.mem_neverMarked_iff found _).1 listed).1
  · intro neglected
    exact List.mem_map.2 ⟨_, (consistent.mem_neverMarked_iff found _).2 ⟨neglected, rfl⟩, rfl⟩

/-! ## What is overlooked -/

/-- A barren place has no arcs, or some instance asks for it, or all its arcs inhibit. -/
theorem Barren.onlyInhibits_iff (barren : net.Barren place) :
    net.OnlyInhibits place ↔ ¬(net.Arcless place ∨ net.Required place) := by
  rw [not_or]
  constructor
  · rintro ⟨⟨transition, inhibitor⟩, eq_inhibit⟩
    refine ⟨fun arcless => arcless .inhibit transition inhibitor, ?_⟩
    rintro ⟨other, arc | arc⟩
    · cases eq_inhibit .consume other arc
    · cases eq_inhibit .catalyst other arc
  · rintro ⟨joined, unasked⟩
    have eq_inhibit : ∀ kind transition, net.HasArc kind transition place →
        kind = .inhibit := by
      intro kind transition arc
      cases kind with
      | consume => exact absurd ⟨transition, .inl arc⟩ unasked
      | produce => exact absurd arc (barren.not_produced transition)
      | catalyst => exact absurd ⟨transition, .inr arc⟩ unasked
      | inhibit => rfl
    simp only [Arcless, not_forall, not_not] at joined
    obtain ⟨kind, transition, arc⟩ := joined
    obtain rfl := eq_inhibit kind transition arc
    exact ⟨⟨transition, arc⟩, eq_inhibit⟩

/-- **A diagnosis reports the barren places that do more than inhibit.** -/
theorem Consistent.reports_iff (consistent : net.Consistent)
    (found : net.places[place]? = some entry) :
    net.diagnose.Reports place ↔ net.Barren place ∧ ¬net.OnlyInhibits place := by
  constructor
  · intro reported
    have barren := consistent.barren_of_reports reported
    refine ⟨barren, ?_⟩
    rw [barren.onlyInhibits_iff, not_not]
    rcases reported with ⟨name, isolated⟩ | ⟨name, warned⟩
    · exact .inl ((consistent.mem_isolatedPlaces_iff found _).1 isolated).1.2
    · obtain ⟨other, listed⟩ := Diagnosis.exists_of_mem_warnings warned
      exact .inr ((consistent.mem_neverMarked_iff found _).1 listed).1.2
  · rintro ⟨barren, more⟩
    rw [barren.onlyInhibits_iff, not_not] at more
    rcases more with arcless | required
    · have isolated := consistent.mem_isolatedPlaces_iff found entry.name
      exact .inl ⟨_, isolated.2 ⟨⟨barren.not_factual entry found, arcless⟩, rfl⟩⟩
    · exact .inr ⟨_, (consistent.mem_warnings_iff found).2 ⟨barren, required⟩⟩

end Places

end Net

/-- A diagnosis without issues reports no place. -/
theorem Diagnosis.not_reports_of_no_issues {diagnosis : Diagnosis}
    (noIssues : diagnosis.hasIssues = false) (place : PlaceId) : ¬diagnosis.Reports place := by
  simp only [hasIssues, Bool.or_eq_false_iff, Bool.not_eq_false', List.isEmpty_iff] at noIssues
  obtain ⟨⟨isolated, -⟩, neverMarked⟩ := noIssues
  rintro (⟨name, listed⟩ | ⟨name, warned⟩)
  · rw [isolated] at listed
    cases listed
  · rw [warnings, neverMarked] at warned
    cases warned

/-- **How far a diagnosis reaches.** In a valid net a place is listed as isolated, under its
name, exactly when it is unmarked at the start and has no arcs, and a warning names it exactly
when it is barren and some instance asks for a token on it. What is reported are thus the
barren places, except for those that only inhibit, and where there are no issues, any barren
place only inhibits. -/
theorem diagnosis_reaches {net : Net} (valid : net.validate = .ok ()) :
    (∀ (place : PlaceId) (entry : Place), net.places[place]? = some entry →
      ((place, entry.name) ∈ net.diagnose.isolatedPlaces ↔
        entry.factual = false ∧ net.Arcless place) ∧
      (Diagnosis.neverMarkedText (place, entry.name) ∈ net.diagnose.warnings ↔
        net.Barren place ∧ net.Required place) ∧
      (net.diagnose.Reports place ↔ net.Barren place ∧ ¬net.OnlyInhibits place)) ∧
    (net.diagnose.hasIssues = false →
      ∀ place < net.places.length, net.Barren place → net.OnlyInhibits place) := by
  have consistent := Net.validate_eq_ok_iff.1 valid
  constructor
  · intro place entry found
    have isolated := consistent.mem_isolatedPlaces_iff found entry.name
    exact ⟨isolated.trans (and_iff_left rfl), consistent.mem_warnings_iff found,
      consistent.reports_iff found⟩
  · intro noIssues place inside barren
    by_contra more
    have reported := (consistent.reports_iff (List.getElem?_eq_getElem inside)).2 ⟨barren, more⟩
    exact Diagnosis.not_reports_of_no_issues noIssues place reported

/-- A net with a place of each sort: marked at the start, asked for, without arcs, produced,
and only inhibiting. -/
def Net.assorted : Net where
  places := [{ name := "a", factual := true }, { name := "b" }, { name := "c" }, { name := "d" },
    { name := "e" }]
  transitions := [{ name := "pass", arcs := [0, 1, 2] }, { name := "wait", arcs := [3, 4] }]
  arcs := [⟨0, 0, .consume⟩, ⟨4, 0, .inhibit⟩, ⟨3, 0, .produce⟩, ⟨1, 1, .catalyst⟩,
    ⟨4, 1, .inhibit⟩]
  placeArcs := [[0], [3], [], [2], [1, 4]]
  buses := ⟨[("pass", [0]), ("wait", [1])], by decide⟩

theorem Net.assorted_validate : assorted.validate = .ok () := by decide +kernel

/-- A net with one instance, which needs nothing and is inhibited by a place that nothing ever
marks. -/
def Net.shunned : Net where
  places := [{ name := "i" }, { name := "q" }]
  transitions := [{ name := "t", arcs := [0, 1] }]
  arcs := [⟨0, 0, .inhibit⟩, ⟨1, 0, .produce⟩]
  placeArcs := [[0], [1]]
  buses := ⟨[("t", [0])], by decide⟩

theorem Net.shunned_validate : shunned.validate = .ok () := by decide +kernel

theorem Net.shunned_hasIssues : shunned.diagnose.hasIssues = false := by decide +kernel

theorem Net.shunned_barren : shunned.Barren 0 :=
  (barren_iff rfl).2 ⟨rfl, by simp [HasArc, shunned]⟩

/-- The place that is asked for is named in a warning, the one without arcs is listed, and the
one that only inhibits is neither, although it is barren as well. It is of the only sort that
there can be where there are no issues. -/
theorem assorted_reached :
    (Net.assorted.Barren 1 ∧ Net.assorted.Required 1) ∧ Net.assorted.Arcless 2 ∧
      (Net.assorted.Barren 4 ∧ ¬Net.assorted.diagnose.Reports 4) ∧ Net.shunned.OnlyInhibits 0 := by
  have reaches := (diagnosis_reaches Net.assorted_validate).1
  have asked := (reaches 1 _ rfl).2.1.1 (by decide +kernel)
  have arcless := (reaches 2 _ rfl).1.1 (by decide +kernel)
  have barren : Net.assorted.Barren 4 :=
    (Net.barren_iff rfl).2 ⟨rfl, by simp [Net.HasArc, Net.assorted]⟩
  have onlyInhibits : Net.assorted.OnlyInhibits 4 := by
    refine ⟨⟨0, by decide⟩, ?_⟩
    intro kind transition arc
    simp only [Net.HasArc, Net.assorted, List.mem_cons, Arc.mk.injEq] at arc
    grind
  have overlooked : ¬Net.assorted.diagnose.Reports 4 := by
    intro reported
    exact ((reaches 4 _ rfl).2.2.1 reported).2 onlyInhibits
  have left := (diagnosis_reaches Net.shunned_validate).2 Net.shunned_hasIssues 0 (by decide)
    Net.shunned_barren
  exact ⟨asked, arcless.2, ⟨barren, overlooked⟩, left⟩

/-- **A diagnosis can overlook a barren place**: this one is not reported, and the net has no
issues. -/
theorem shunned_overlooked :
    Net.shunned.validate = .ok () ∧ Net.shunned.places[0]? = some { name := "i" } ∧
      Net.shunned.Barren 0 ∧ ¬Net.shunned.diagnose.Reports 0 ∧
        Net.shunned.diagnose.hasIssues = false :=
  ⟨Net.shunned_validate, rfl, Net.shunned_barren,
    Diagnosis.not_reports_of_no_issues Net.shunned_hasIssues 0, Net.shunned_hasIssues⟩

end EventNet
