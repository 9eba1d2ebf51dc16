import EventNet.Net.Diagnosis
import EventNet.Proofs.Firing.Session
import EventNet.Proofs.Run.Trace

/-!
# Places that are never marked

A place is barren if it is not marked at the start and no arc produces a token on it
(`Net.Barren`). A diagnosis reports barren places only (`Net.Consistent.barren_of_reports`):
an isolated place has no arcs at all, and a place that is required but never marked has none
that produces. Places of the second kind are reported in warnings. These are texts, but a
text tells which place it is about (`Diagnosis.place_eq_of_text_eq`).

A move marks only what it produces, so a barren place stays unmarked along every path, and
an instance that asks for a token on it is never accepted (`Net.Path.unmarked`). Sessions
that take steps only are paths (`Net.Consistent.path_takeSteps`), and so are runs
(`reported_never_marked`).
-/

set_option autoImplicit false

namespace EventNet

open EventNet.Random (WordSource)

/-! ## What a diagnosis reports -/

namespace Diagnosis

/-- Two texts that end with the same sign and digits behind it end with the same digits. -/
theorem digits_eq_of_append_eq {first second digits others : List Char} {sign : Char}
    (notDigit : sign.isDigit = false) (areDigits : ∀ c ∈ digits, c.isDigit = true)
    (othersAre : ∀ c ∈ others, c.isDigit = true)
    (same : first ++ sign :: digits = second ++ sign :: others) : digits = others := by
  have ending : ∀ {before these : List Char}, (∀ c ∈ these, c.isDigit = true) →
      (before ++ sign :: these).reverse.takeWhile Char.isDigit = these.reverse := by
    intro before these all
    have reversed : ∀ c ∈ these.reverse, c.isDigit = true := by
      intro c listed
      exact all c (List.mem_reverse.1 listed)
    rw [List.reverse_append, List.reverse_cons, List.append_assoc,
      List.takeWhile_append_of_pos reversed, List.singleton_append,
      List.takeWhile_cons_of_neg (by simp [notDigit]), List.append_nil]
  have turned := congrArg (fun text => text.reverse.takeWhile Char.isDigit) same
  simp only [ending areDigits, ending othersAre] at turned
  exact List.reverse_injective turned

/-- **A warning tells the place that it is about.** -/
theorem place_eq_of_text_eq {first second : PlaceId × String}
    (same : neverMarkedText first = neverMarkedText second) : first.1 = second.1 := by
  have digits : ∀ number : Nat, ∀ c ∈ Nat.toDigits 10 number, c.isDigit = true := by
    intro number c listed
    exact Nat.isDigit_of_mem_toDigits (by decide) (by decide) listed
  have texts : ("place '".toList ++ first.2.toList ++ "' (".toList) ++
        'p' :: Nat.toDigits 10 (first.1 + 1) =
      ("place '".toList ++ second.2.toList ++ "' (".toList) ++
        'p' :: Nat.toDigits 10 (second.1 + 1) := by
    have lists := congrArg String.toList same
    simp only [neverMarkedText, PlaceId.text, String.toList_append, Nat.toString_eq_repr,
      Nat.toList_repr, List.append_cancel_right_eq] at lists
    simpa only [String.reduceToList, List.append_assoc, List.cons_append, List.nil_append]
      using lists
  have numbers := digits_eq_of_append_eq (by decide) (digits _) (digits _) texts
  have values := congrArg (fun digits => Nat.ofDigitChars 10 digits 0) numbers
  simp only [Nat.ofDigitChars_ten_toDigits] at values
  exact Nat.succ.inj values

/-- The diagnosis reports a place, as isolated or in a warning. -/
def Reports (diagnosis : Diagnosis) (place : PlaceId) : Prop :=
  (∃ name, (place, name) ∈ diagnosis.isolatedPlaces) ∨
    ∃ name, neverMarkedText (place, name) ∈ diagnosis.warnings

/-- A warning about a place stems from an entry for it. -/
theorem exists_of_mem_warnings {diagnosis : Diagnosis} {place : PlaceId} {name : String}
    (warned : neverMarkedText (place, name) ∈ diagnosis.warnings) :
    ∃ other, (place, other) ∈ diagnosis.neverMarked := by
  obtain ⟨⟨found, other⟩, listed, text⟩ := List.mem_map.1 warned
  obtain rfl : found = place := place_eq_of_text_eq text
  exact ⟨other, listed⟩

end Diagnosis

/-! ## Barren places -/

namespace Net

/-- A place that is not marked at the start and on which no arc produces a token. -/
structure Barren (net : Net) (place : PlaceId) : Prop where
  not_factual : ∀ entry : Place, net.places[place]? = some entry → entry.factual = false
  not_produced : ∀ transition, ¬net.HasArc .produce transition place

/-- A place whose index is empty has no arcs. -/
theorem Consistent.not_hasArc_of_isolated {net : Net} (consistent : net.Consistent)
    {place : PlaceId} (isolated : net.isolatedPlace place = true) (kind : ArcKind)
    (transition : TransitionId) : ¬net.HasArc kind transition place := by
  intro arc
  have listed := consistent.mem_arcsAt.2 ⟨arc, rfl⟩
  unfold isolatedPlace at isolated
  unfold arcsAt at listed
  cases found : net.placeArcs[place]? with
  | none => simp [found] at listed
  | some index =>
    rw [found, Option.all_some, List.isEmpty_iff] at isolated
    simp [found, isolated] at listed

/-- A place that is required only is produced by no arc. -/
theorem Consistent.not_produced_of_requiredOnly {net : Net} (consistent : net.Consistent)
    {place : PlaceId} (required : net.requiredOnly place = true) (transition : TransitionId) :
    ¬net.HasArc .produce transition place := by
  intro arc
  obtain ⟨-, unproduced⟩ := Bool.and_eq_true_iff.1 required
  have produced : ((net.arcsAt place).any fun arc => arc.kind == .produce) = true :=
    List.any_eq_true.2 ⟨_, consistent.mem_arcsAt.2 ⟨arc, rfl⟩, beq_self_eq_true _⟩
  rw [produced] at unproduced
  cases unproduced

/-- **A diagnosis reports barren places only.** -/
theorem Consistent.barren_of_reports {net : Net} (consistent : net.Consistent) {place : PlaceId}
    (reported : net.diagnose.Reports place) : net.Barren place := by
  have entry_eq : ∀ {entry other : Place}, net.places[place]? = some entry →
      net.places[place]? = some other → other = entry := by
    intro entry other here there
    exact Option.some.inj (there.symm.trans here)
  rcases reported with ⟨name, isolated⟩ | ⟨name, warned⟩
  · obtain ⟨⟨entry, id⟩, found, here⟩ := List.mem_filterMap.1 isolated
    rw [Option.ite_none_right_eq_some, Bool.and_eq_true, Bool.not_eq_true'] at here
    obtain ⟨⟨noArcs, unmarked⟩, same⟩ := here
    cases same
    refine ⟨?_, consistent.not_hasArc_of_isolated noArcs .produce⟩
    intro other there
    rw [entry_eq (List.mem_zipIdx_iff_getElem?.1 found) there]
    exact unmarked
  · obtain ⟨other, listed⟩ := Diagnosis.exists_of_mem_warnings warned
    obtain ⟨⟨entry, id⟩, found, here⟩ := List.mem_filterMap.1 listed
    rw [Option.ite_none_right_eq_some, Bool.and_eq_true, Bool.and_eq_true,
      Bool.not_eq_true' entry.factual] at here
    obtain ⟨⟨⟨-, required⟩, unmarked⟩, same⟩ := here
    cases same
    refine ⟨?_, consistent.not_produced_of_requiredOnly required⟩
    intro other there
    rw [entry_eq (List.mem_zipIdx_iff_getElem?.1 found) there]
    exact unmarked

/-! ## Barren places along a path -/

/-- No instance asks for a token on the place. -/
def NotRequiredBy (net : Net) (place : PlaceId) (instances : List TransitionId) : Prop :=
  ∀ transition ∈ instances,
    ¬net.HasArc .consume transition place ∧ ¬net.HasArc .catalyst transition place

section Moves

variable {net : Net} {place : PlaceId}

/-- A barren place is unmarked at the start. -/
theorem Barren.initial (barren : net.Barren place) :
    (Marking.initial net).isMarked place = false := by
  cases found : net.places[place]? with
  | none => simp [Marking.isMarked, Marking.initial, found]
  | some entry => simp [Marking.isMarked, Marking.initial, found, barren.not_factual entry found]

/-- **A move leaves a barren place unmarked**, and it accepts no instance that asks for a
token on it. -/
theorem Barren.move (barren : net.Barren place) (consistent : net.Consistent)
    {before after : RunState} {step : Step}
    (sized : before.marking.marks.length = net.places.length)
    (unmarked : before.marking.isMarked place = false) (move : net.Move before step after) :
    after.marking.isMarked place = false ∧ net.NotRequiredBy place step.instances := by
  constructor
  · rw [Bool.eq_false_iff, move.marking_eq]
    intro marked
    rcases (consistent.isMarked_effect sized).1 marked with ⟨transition, -, arc⟩ | ⟨held, -⟩
    · exact barren.not_produced transition arc
    · rw [unmarked] at held
      cases held
  · intro transition accepted
    have enabled := move.choice.instances_enabled transition accepted
    constructor
    · intro arc
      have marked := enabled.consumed_marked place arc
      rw [unmarked] at marked
      cases marked
    · intro arc
      have marked := enabled.catalyst_marked place arc
      rw [unmarked] at marked
      cases marked

/-- **A barren place stays unmarked along a path.** -/
theorem Path.unmarked (barren : net.Barren place) (consistent : net.Consistent)
    {before final : RunState} {moments : List Moment}
    (path : net.Path before moments final)
    (sized : before.marking.marks.length = net.places.length)
    (unmarked : before.marking.isMarked place = false) :
    final.marking.isMarked place = false ∧ ∀ moment ∈ moments,
      moment.state.marking.isMarked place = false ∧
        net.NotRequiredBy place moment.step.instances := by
  induction path with
  | stay state => exact ⟨unmarked, by simp⟩
  | move first rest ih =>
    obtain ⟨still, notRequired⟩ := barren.move consistent sized unmarked first
    obtain ⟨last, others⟩ := ih first.sized still
    refine ⟨last, ?_⟩
    intro moment listed
    rcases List.mem_cons.1 listed with rfl | later
    · exact ⟨still, notRequired⟩
    · exact others moment later

end Moves

end Net

/-! ## Sessions and runs -/

section Steps

variable {σ : Type} [WordSource σ]

/-- A session in which nothing is done but steps are taken, with these preferences and
sources of words. -/
def Engine.takeSteps (engine : Engine) (session : Session) (steps : List (Option String × σ)) :
    Session :=
  (steps.map fun step => Operation.step step.1 step.2).foldl engine.perform session

/-- Steps in a session are a path, and what is accepted are the instances of its moments. -/
theorem Net.Consistent.path_takeSteps {net : Net} (consistent : net.Consistent)
    (steps : List (Option String × σ)) {session : Session}
    (sized : session.state.marking.marks.length = net.places.length) :
    ∃ moments, net.Path session.state moments
        ((Engine.ofNet net).takeSteps session steps).state ∧
      ((Engine.ofNet net).takeSteps session steps).accepted =
        session.accepted ++ moments.map fun moment => moment.step.instances := by
  induction steps generalizing session with
  | nil => exact ⟨[], .stay _, (List.append_nil _).symm⟩
  | cons step steps ih =>
    obtain ⟨preferred, source⟩ := step
    have unfolded : (Engine.ofNet net).takeSteps session ((preferred, source) :: steps) =
        (Engine.ofNet net).takeSteps
          ((Engine.ofNet net).perform session (.step preferred source)) steps := rfl
    rw [unfolded]
    cases taken : (Engine.ofNet net).step? preferred session.state source with
    | none =>
      have same : (Engine.ofNet net).perform session (.step preferred source) = session := by
        simp only [Engine.perform, taken]
      rw [same]
      exact ih sized
    | some result =>
      obtain ⟨arbitration, after, rest⟩ := result
      have move := consistent.move_of_step? sized taken
      have next : (Engine.ofNet net).perform session (.step preferred source) =
          ⟨after, session.accepted ++ [arbitration.step.instances]⟩ := by
        simp only [Engine.perform, taken]
      have sizedNext : (⟨after, session.accepted ++ [arbitration.step.instances]⟩ :
          Session).state.marking.marks.length = net.places.length := move.sized
      obtain ⟨moments, path, accepted⟩ := ih sizedNext
      refine ⟨⟨arbitration, after⟩ :: moments, ?_, ?_⟩
      · rw [next]
        exact .move move path
      · rw [next, accepted, List.append_assoc]
        rfl

end Steps

/-- **What is reported stays unmarked and holds up what needs it.** A place that the
diagnosis of a valid net reports, as isolated or in a warning, is unmarked after any steps
from the initial marking on, with any preferences and any sources of words. No instance that
consumes from it or has it for a catalyst is accepted in any of these steps, or in any step
of a run. -/
theorem reported_never_marked {net : Net} (valid : net.validate = .ok ()) {place : PlaceId}
    (reported : net.diagnose.Reports place) :
    (∀ {σ : Type} [WordSource σ] (fired : FiredSources) (steps : List (Option String × σ)),
      let session := (Engine.ofNet net).takeSteps
        { state := { marking := .initial net, fired } } steps
      session.state.marking.isMarked place = false ∧
        ∀ instances ∈ session.accepted, net.NotRequiredBy place instances) ∧
    ∀ (budget : Nat) (seed : UInt64) (story : List String) (trace : Trace) (log : Log),
      runStory net budget seed story = .ok (trace, log) →
        ∀ record ∈ trace.steps, net.NotRequiredBy place record.firedInstances := by
  have consistent := Net.validate_eq_ok_iff.1 valid
  have barren := consistent.barren_of_reports reported
  have sized := Marking.length_initial net
  constructor
  · intro σ _ fired steps session
    have start : ({ state := { marking := .initial net, fired } } :
        Session).state.marking.marks.length = net.places.length := sized
    obtain ⟨moments, path, accepted⟩ := consistent.path_takeSteps steps start
    obtain ⟨last, others⟩ := path.unmarked barren consistent sized barren.initial
    refine ⟨last, ?_⟩
    intro instances listed
    rw [accepted, List.nil_append] at listed
    obtain ⟨moment, among, rfl⟩ := List.mem_map.1 listed
    exact (others moment among).2
  · intro budget seed story trace log ran record recorded transition happened
    have positive : 0 < budget := by
      rcases Nat.eq_zero_or_pos budget with rfl | positive
      · cases ran
      · exact positive
    obtain ⟨_, outcome⟩ := runStory_eq_ok net positive seed story
    rw [outcome] at ran
    cases ran
    have path : net.Path (RunState.initial net)
        ((Engine.ofNet net).course budget seed story).moments
        ((Engine.ofNet net).course budget seed story).final :=
      consistent.path_courseFrom sized
    obtain ⟨-, others⟩ := path.unmarked barren consistent sized barren.initial
    obtain ⟨moment, listed, happening⟩ := exists_mem_recordsFrom.1 ⟨record, recorded, happened⟩
    exact (others moment listed).2 transition happening

/-- A net in which one place is produced only by an instance that cannot happen, one is never
produced at all, and one has no arcs. -/
def Net.neglected : Net where
  places := [{ name := "a", factual := true }, { name := "b" }, { name := "c" }, { name := "d" }]
  transitions := [{ name := "go", arcs := [0, 1] }, { name := "stuck", arcs := [2, 3] }]
  arcs := [⟨0, 0, .consume⟩, ⟨3, 0, .produce⟩, ⟨1, 1, .consume⟩, ⟨0, 1, .produce⟩]
  placeArcs := [[0, 3], [2], [], [1]]
  buses := ⟨[("go", [0]), ("stuck", [1])], by decide⟩

theorem Net.neglected_validate : neglected.validate = .ok () := by decide +kernel

/-- One step can be taken, and then no preference gets the other instance to happen. -/
theorem neglected_never_marked :
    Net.neglected.diagnose.Reports 1 ∧ Net.neglected.diagnose.Reports 2 ∧
      let session := (Engine.ofNet Net.neglected).takeSteps
        { state := { marking := .initial Net.neglected, fired := .empty } }
        [(none, Random.Cycle.ofWords [7]), (some "stuck", Random.Cycle.ofWords [4000000000, 1])]
      session.accepted = [[0]] ∧ session.state.marking.isMarked 1 = false ∧
        session.state.marking.isMarked 2 = false ∧
        (∀ instances ∈ session.accepted, Net.neglected.NotRequiredBy 1 instances) ∧
        ∀ (budget : Nat) (seed : UInt64) (story : List String) (trace : Trace) (log : Log),
          runStory Net.neglected budget seed story = .ok (trace, log) →
            ∀ record ∈ trace.steps, Net.neglected.NotRequiredBy 1 record.firedInstances := by
  have required : Net.neglected.diagnose.Reports 1 := .inr ⟨"b", by decide +kernel⟩
  have isolated : Net.neglected.diagnose.Reports 2 := .inl ⟨"c", by decide +kernel⟩
  refine ⟨required, isolated, ?_⟩
  intro session
  have never := reported_never_marked Net.neglected_validate required
  obtain ⟨unmarked, refused⟩ := never.1 FiredSources.empty
    [(none, Random.Cycle.ofWords [7]), (some "stuck", Random.Cycle.ofWords [4000000000, 1])]
  have other := (reported_never_marked Net.neglected_validate isolated).1 FiredSources.empty
    [(none, Random.Cycle.ofWords [7]), (some "stuck", Random.Cycle.ofWords [4000000000, 1])]
  exact ⟨by decide +kernel, unmarked, other.1, refused, never.2⟩

end EventNet
