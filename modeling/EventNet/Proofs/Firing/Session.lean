import EventNet.Proofs.Firing.Effect

/-!
# Sessions

An engine may be driven by hand: steps are taken with any preferred bus and any source of
words, and between them marks are set and cleared at will. A session keeps what has been
accepted so far (`Session`).

A source has no places that could hold it back, so nothing but the set of fired sources
keeps it from happening again. In a session that set is exactly the set of sources that
have been accepted, and no source is accepted twice (`Session.Faithful`). One operation
preserves this (`Session.Faithful.perform`), whatever has been done to the marking, and
so it holds after every session (`performAll_sources_once`).
-/

set_option autoImplicit false

namespace EventNet

open EventNet.Random (WordSource)

variable {σ : Type}

/-- What can be done to an engine by hand. -/
inductive Operation (σ : Type) where
  /-- Takes a step, if there is one, with words from the given source. -/
  | step (preferred : Option String) (source : σ)
  /-- Sets the mark of a place. -/
  | setMark (place : PlaceId) (marked : Bool)

/-- The state of an engine that is driven by hand, and the instances of every step taken
so far. -/
structure Session where
  state : RunState
  accepted : List (List TransitionId) := []

namespace Engine

variable [WordSource σ]

/-- One operation. -/
def perform (engine : Engine) (session : Session) : Operation σ → Session
  | .step preferred source =>
    match engine.step? preferred session.state source with
    | none => session
    | some (arbitration, after, _) =>
      { state := after, accepted := session.accepted ++ [arbitration.step.instances] }
  | .setMark place marked =>
    { session with state := { session.state with
        marking := session.state.marking.set place marked } }

/-- The session from a marking on, in which no source has fired yet. -/
def performAll (engine : Engine) (marking : Marking) (operations : List (Operation σ)) :
    Session :=
  operations.foldl engine.perform { state := { marking, fired := .empty } }

end Engine

namespace Session

/-- The fired sources are those that have been accepted, and none has been accepted
twice. -/
structure Faithful (net : Net) (session : Session) : Prop where
  mem_fired : ∀ transition, transition ∈ session.state.fired.toSet ↔
    net.IsSource transition ∧ transition ∈ session.accepted.flatten
  count_le_one : ∀ transition, net.IsSource transition →
    session.accepted.flatten.count transition ≤ 1

variable [WordSource σ] {net : Net} {session : Session}

/-- **An operation preserves that sources are recorded and happen once.** -/
theorem Faithful.perform (consistent : net.Consistent) (faithful : session.Faithful net)
    (operation : Operation σ) :
    ((Engine.ofNet net).perform session operation).Faithful net := by
  cases operation with
  | setMark place marked => exact ⟨faithful.mem_fired, faithful.count_le_one⟩
  | step preferred source =>
    cases taken : (Engine.ofNet net).step? preferred session.state source with
    | none => simpa only [Engine.perform, taken] using faithful
    | some result =>
      obtain ⟨arbitration, after, rest⟩ := result
      have choice := consistent.choice_of_step? taken
      have fired := consistent.mem_fired_of_step? taken
      simp only [Engine.perform, taken]
      refine ⟨fun transition => ?_, fun transition source => ?_⟩
      · rw [fired, faithful.mem_fired, List.flatten_concat, List.mem_append]
        tauto
      · rw [List.flatten_concat, List.count_append]
        by_cases accepted : transition ∈ arbitration.step.instances
        · -- it is enabled, so it had not fired, so it had not been accepted
          have fresh : transition ∉ session.accepted.flatten := fun earlier =>
            (choice.instances_enabled transition accepted).source_fresh source
              ((faithful.mem_fired transition).2 ⟨source, earlier⟩)
          rw [List.count_eq_zero.2 fresh, Nat.zero_add]
          exact List.nodup_iff_count_le_one.1 choice.instances_nodup transition
        · rw [List.count_eq_zero.2 accepted, Nat.add_zero]
          exact faithful.count_le_one transition source

theorem Faithful.foldl_perform (consistent : net.Consistent) (operations : List (Operation σ))
    (faithful : session.Faithful net) :
    (operations.foldl (Engine.ofNet net).perform session).Faithful net := by
  induction operations generalizing session with
  | nil => exact faithful
  | cons operation operations ih => exact ih (faithful.perform consistent operation)

end Session

/-- **A source is accepted at most once in a session**, and the fired sources are always
the accepted ones. The operations are arbitrary, so this holds after each of them. -/
theorem performAll_sources_once [WordSource σ] {net : Net} (valid : net.validate = .ok ())
    (marking : Marking) (operations : List (Operation σ)) :
    let session := (Engine.ofNet net).performAll marking operations
    (∀ transition, net.IsSource transition → session.accepted.flatten.count transition ≤ 1) ∧
      ∀ transition, transition ∈ session.state.fired.toSet ↔
        net.IsSource transition ∧ transition ∈ session.accepted.flatten := by
  have start : ({ state := { marking, fired := .empty } } : Session).Faithful net :=
    ⟨by simp [FiredSources.toSet_empty], by simp⟩
  have faithful := start.foldl_perform (Net.validate_eq_ok_iff.1 valid) operations
  exact ⟨faithful.count_le_one, faithful.mem_fired⟩

/-- The spring among the rivals happens once, also when nothing else could happen because
the token was taken away by hand, and when its bus is preferred. -/
theorem rivals_session_sources_once :
    let session := (Engine.ofNet Net.rivals).performAll (.initial Net.rivals)
      [.step none (Random.Cycle.ofWords [4000000000, 1]), .setMark 0 false,
        .step none (Random.Cycle.ofWords [7]), .setMark 0 true,
        .step (some "spring") (Random.Cycle.ofWords [7])]
    session.accepted = [[0, 3], [1]] ∧
      (∀ transition, Net.rivals.IsSource transition →
        session.accepted.flatten.count transition ≤ 1) ∧
      ∀ transition, transition ∈ session.state.fired.toSet ↔
        Net.rivals.IsSource transition ∧ transition ∈ session.accepted.flatten := by
  intro session
  have accepted : session.accepted = [[0, 3], [1]] := by decide +kernel
  exact ⟨accepted, performAll_sources_once Net.rivals_validate _ _⟩

end EventNet
