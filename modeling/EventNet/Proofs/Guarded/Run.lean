import EventNet.Batch
import EventNet.Proofs.Firing.Session
import EventNet.Proofs.Guarded.Step
import EventNet.Proofs.Net.Documents
import EventNet.Proofs.Run.Path

/-!
# Looking up during runs

Sessions, runs and batches written so that they fail at a position that does not exist.
What carries their proofs is that the marking has one entry for every place: it has when a
run starts, and every move keeps it so (`Net.Path.sized`).

`Net.StaysInside` gathers what is proved of the operations on one net, from looking up an
arc to running a batch. An accepted net stays inside its tables, and a net that comes out
of a document has been accepted (`staysInside_of_accepted`). So a document whose tables
contradict each other is refused when it is read, and does not fail later.
-/

set_option autoImplicit false

namespace EventNet

open EventNet.Random (WordSource ChaCha)

/-! ## The operations -/

namespace Guarded

section Driven

variable {σ : Type} [WordSource σ]

/-- One operation of a session. A mark is set only on a place that is there. -/
def perform (engine : Engine) (session : Session) : Operation σ → Option Session
  | .step preferred source => do
    match ← step? engine preferred session.state source with
    | none => return session
    | some (arbitration, after, _) =>
      return { state := after, accepted := session.accepted ++ [arbitration.step.instances] }
  | .setMark place marked => do
    let marking ← setMark marked session.state.marking place
    return { session with state := { session.state with marking } }

/-- A session from a marking on. -/
def performAll (engine : Engine) (marking : Marking) (operations : List (Operation σ)) :
    Option Session :=
  operations.foldlM (perform engine) { state := { marking, fired := .empty } }

/-- Takes steps from a state on. -/
def courseFrom (engine : Engine) (story : List String) (state : RunState) (source : σ) :
    Nat → Option Course
  | 0 => some { moments := [], final := state, progress := 0, stopped := false }
  | budget + 1 => do
    match ← step? engine story.head? state source with
    | none => return { moments := [], final := state, progress := 0, stopped := true }
    | some (arbitration, after, source) =>
      let remaining := advance arbitration.step.labels story
      let rest ← courseFrom engine remaining after source budget
      return { rest with
        moments := { arbitration, state := after } :: rest.moments
        progress := (story.length - remaining.length) + rest.progress }

end Driven

/-- The marking by name. -/
def snapshot (net : Net) (marking : Marking) : Option Snapshot := do
  let marks ← net.places.zipIdx.mapM fun (place, id) => do
    let marked ← mark marking id
    return (place.name, marked)
  return LabelMap.ofList marks

/-- The names of the marked places in braces. -/
def text (net : Net) (marking : Marking) : Option String := do
  let names ← marking.markedPlaces.mapM fun id => net.places[id]?.map Place.name
  return braced names

/-- The records of steps. -/
def recordsFrom (net : Net) : (number : Nat) → List Moment → Option (List StepRecord)
  | _, [] => some []
  | number, moment :: moments => do
    let marking ← snapshot net moment.state.marking
    let records ← recordsFrom net (number + 1) moments
    return { step := number
             firedLabels := moment.arbitration.step.labels
             firedInstances := moment.arbitration.step.instances
             marking } :: records

/-- The record of a run. A run that has stopped is known to be quiescent. -/
def trace (engine : Engine) (seed : UInt64) (course : Course) : Option Trace := do
  let steps ← recordsFrom engine.net 1 course.moments
  let quiescent ←
    if course.stopped then some true
    else isQuiescent engine course.final.marking course.final.fired
  let finalMarking ← snapshot engine.net course.final.marking
  return { seed, steps, quiescent, finalMarking, storyProgress := course.progress }

/-- A run for a seed, and its record. -/
def course (engine : Engine) (budget : Nat) (seed : UInt64) (story : List String) :
    Option (Course × Trace) := do
  let start := RunState.initial engine.net
  let course ← courseFrom engine story start (ChaCha.ofSeed seed) budget
  let trace ← trace engine seed course
  return (course, trace)

/-- Runs a net once, following a story. -/
def runStory (net : Net) (budget : Nat) (seed : UInt64) (story : List String) :
    Option (Except RunError (Trace × Log)) :=
  if budget = 0 then some (.error .zeroSteps)
  else do
    let engine ← engine net
    let (course, trace) ← course engine budget seed story
    return .ok (trace, course.log seed ++ stallLog seed story course.progress)

/-- Runs a net once. -/
def runTrial (net : Net) (budget : Nat) (seed : UInt64) :
    Option (Except RunError (Trace × Log)) :=
  runStory net budget seed []

/-- Runs a batch. -/
def runBatch (net : Net) (plan : BatchPlan) (entropy : Nat → UInt64) :
    Option (Except RunError (BatchOutcome × Log)) :=
  match plan.error? with
  | some error => some (.error error)
  | none => do
    let engine ← engine net
    let runs ← (List.range plan.trials).mapM fun trial =>
      course engine plan.steps (plan.seedOf entropy trial) []
    let traces := runs.map Prod.snd
    let statistics := Statistics.ofTraces net plan.steps traces
    return .ok ({ traces, statistics }, [plan.startRecord, statistics.endRecord])

end Guarded

/-! ## Sizes -/

/-- After every moment of a path from a marking of the right size the marking has one entry
for every place. -/
theorem Net.Path.sized {net : Net} {before final : RunState} {moments : List Moment}
    (path : net.Path before moments final)
    (start : before.marking.marks.length = net.places.length) :
    (∀ moment ∈ moments, moment.state.marking.marks.length = net.places.length) ∧
      final.marking.marks.length = net.places.length := by
  induction path with
  | stay state => exact ⟨by simp, start⟩
  | move first rest ih =>
    obtain ⟨later, final⟩ := ih first.sized
    exact ⟨List.forall_mem_cons.2 ⟨first.sized, later⟩, final⟩

/-- The place of an operation that sets a mark exists. -/
def Operation.Inside {σ : Type} (net : Net) : Operation σ → Prop
  | .step _ _ => True
  | .setMark place _ => place < net.places.length

namespace Net.Consistent

variable {net : Net} (consistent : net.Consistent)
include consistent

/-! ## Sessions and courses -/

section Driven

variable {σ : Type} [WordSource σ]

/-- One operation stays inside the tables and keeps the size of the marking. -/
theorem guarded_perform {session : Session}
    (sized : session.state.marking.marks.length = net.places.length) {operation : Operation σ}
    (inside : operation.Inside net) :
    Guarded.perform (Engine.ofNet net) session operation =
        some ((Engine.ofNet net).perform session operation) ∧
      ((Engine.ofNet net).perform session operation).state.marking.marks.length =
        net.places.length := by
  cases operation with
  | setMark place marked =>
    have existing : place < session.state.marking.marks.length := sized.symm ▸ inside
    refine ⟨?_, List.length_set.trans sized⟩
    simp only [Guarded.perform, Guarded.setMark_eq_some existing]
    rfl
  | step preferred source =>
    simp only [Guarded.perform, consistent.guarded_step? sized, Engine.perform]
    cases taken : (Engine.ofNet net).step? preferred session.state source with
    | none => exact ⟨rfl, sized⟩
    | some result => exact ⟨rfl, (consistent.move_of_step? sized taken).sized⟩

theorem guarded_foldlM_perform {session : Session}
    (sized : session.state.marking.marks.length = net.places.length)
    {operations : List (Operation σ)} (inside : ∀ operation ∈ operations, operation.Inside net) :
    operations.foldlM (Guarded.perform (Engine.ofNet net)) session =
        some (operations.foldl (Engine.ofNet net).perform session) ∧
      (operations.foldl (Engine.ofNet net).perform session).state.marking.marks.length =
        net.places.length := by
  induction operations generalizing session with
  | nil => exact ⟨rfl, sized⟩
  | cons operation operations ih =>
    obtain ⟨first, others⟩ := List.forall_mem_cons.1 inside
    obtain ⟨performed, sizedAfter⟩ := consistent.guarded_perform sized first
    rw [List.foldlM_cons, performed, Option.bind_eq_bind, Option.bind_some, List.foldl_cons]
    exact ih sizedAfter others

/-- **A run stays inside the tables**, however long it is. -/
theorem guarded_courseFrom {state : RunState}
    (sized : state.marking.marks.length = net.places.length) (story : List String) (source : σ)
    (budget : Nat) :
    Guarded.courseFrom (Engine.ofNet net) story state source budget =
      some ((Engine.ofNet net).courseFrom story state source budget) := by
  induction budget generalizing story state source with
  | zero => rfl
  | succ budget ih =>
    simp only [Guarded.courseFrom, consistent.guarded_step? sized, Option.bind_eq_bind,
      Option.bind_some]
    cases taken : (Engine.ofNet net).step? story.head? state source with
    | none => rw [Engine.courseFrom_of_none taken]; rfl
    | some result =>
      have sizedAfter := (consistent.move_of_step? sized taken).sized
      rw [Engine.courseFrom_of_step taken]
      simp only [ih sizedAfter]
      rfl

end Driven

/-! ## Markings by name -/

section ByName

variable {marking : Marking} (sized : marking.marks.length = net.places.length)
include sized

omit consistent in
theorem guarded_snapshot : Guarded.snapshot net marking = some (marking.snapshot net) := by
  have found : ∀ entry ∈ net.places.zipIdx,
      (do let marked ← Guarded.mark marking entry.2; return (entry.1.name, marked)) =
        some (entry.1.name, marking.isMarked entry.2) := by
    intro entry listed
    have inside := (List.getElem?_eq_some_iff.1 (List.mem_zipIdx_iff_getElem?.1 listed)).1
    rw [Guarded.mark_eq_some (sized.symm ▸ inside)]
    rfl
  rw [Guarded.snapshot, Guarded.mapM_eq_some found]
  rfl

omit consistent in
/-- A marked place has a mark, so it is a place. -/
theorem guarded_text : Guarded.text net marking = some (marking.text net) := by
  have found : ∀ id ∈ marking.markedPlaces,
      net.places[id]?.map Place.name = some ((net.places[id]?.map Place.name).getD "") := by
    intro id listed
    simp only [Marking.markedPlaces, List.mem_map, List.mem_filter, Prod.exists,
      List.mem_zipIdx_iff_getElem?] at listed
    obtain ⟨marked, position, ⟨atPosition, -⟩, rfl⟩ := listed
    have inside := sized ▸ (List.getElem?_eq_some_iff.1 atPosition).1
    simp [inside]
  rw [Guarded.text, Guarded.mapM_eq_some found]
  rfl

end ByName

omit consistent in
theorem guarded_recordsFrom {moments : List Moment}
    (sized : ∀ moment ∈ moments, moment.state.marking.marks.length = net.places.length)
    (number : Nat) :
    Guarded.recordsFrom net number moments = some (recordsFrom net number moments) := by
  induction moments generalizing number with
  | nil => rfl
  | cons moment moments ih =>
    obtain ⟨first, others⟩ := List.forall_mem_cons.1 sized
    simp only [Guarded.recordsFrom, guarded_snapshot first, ih others]
    rfl

/-! ## Whole runs -/

/-- A run from the initial marking has one entry for every place after every step. -/
theorem sized_course (budget : Nat) (seed : UInt64) (story : List String) :
    let course := (Engine.ofNet net).course budget seed story
    (∀ moment ∈ course.moments, moment.state.marking.marks.length = net.places.length) ∧
      course.final.marking.marks.length = net.places.length := by
  have start : (RunState.initial net).marking.marks.length = net.places.length :=
    Marking.length_initial net
  exact (consistent.path_courseFrom start).sized start

/-- Whether a run has stopped or is looked at in the end, its record has the same flag. -/
theorem guarded_trace {course : Course}
    (sized : ∀ moment ∈ course.moments, moment.state.marking.marks.length = net.places.length)
    (sizedFinal : course.final.marking.marks.length = net.places.length) (seed : UInt64) :
    Guarded.trace (Engine.ofNet net) seed course =
      some (course.trace (Engine.ofNet net) seed) := by
  have records : Guarded.recordsFrom (Engine.ofNet net).net 1 course.moments =
      some (recordsFrom net 1 course.moments) := guarded_recordsFrom sized 1
  have last : Guarded.snapshot (Engine.ofNet net).net course.final.marking =
      some (course.final.marking.snapshot net) := guarded_snapshot sizedFinal
  simp only [Guarded.trace, records, last, consistent.guarded_isQuiescent sizedFinal,
    Option.bind_eq_bind, Option.bind_some, Course.trace]
  cases course.stopped <;> rfl

theorem guarded_course (budget : Nat) (seed : UInt64) (story : List String) :
    Guarded.course (Engine.ofNet net) budget seed story =
      some ((Engine.ofNet net).course budget seed story,
        ((Engine.ofNet net).course budget seed story).trace (Engine.ofNet net) seed) := by
  obtain ⟨sized, sizedFinal⟩ := consistent.sized_course budget seed story
  have taken : Guarded.courseFrom (Engine.ofNet net) story (RunState.initial net)
      (ChaCha.ofSeed seed) budget = some ((Engine.ofNet net).course budget seed story) :=
    consistent.guarded_courseFrom (Marking.length_initial net) story _ budget
  simp only [Guarded.course, show (Engine.ofNet net).net = net from rfl, taken,
    consistent.guarded_trace sized sizedFinal, Option.bind_eq_bind, Option.bind_some]
  rfl

theorem guarded_runStory (budget : Nat) (seed : UInt64) (story : List String) :
    Guarded.runStory net budget seed story = some (runStory net budget seed story) := by
  unfold Guarded.runStory runStory
  split
  · rfl
  · simp only [consistent.guarded_engine, consistent.guarded_course, Option.bind_eq_bind,
      Option.bind_some]
    rfl

theorem guarded_runBatch (plan : BatchPlan) (entropy : Nat → UInt64) :
    Guarded.runBatch net plan entropy = some (runBatch net plan entropy) := by
  unfold Guarded.runBatch runBatch
  cases plan.error? with
  | some error => rfl
  | none =>
    have runs := Guarded.mapM_eq_some fun trial (_ : trial ∈ List.range plan.trials) =>
      consistent.guarded_course plan.steps (plan.seedOf entropy trial) []
    simp only [consistent.guarded_engine, runs, Option.bind_eq_bind, Option.bind_some,
      List.map_map]
    rfl

end Net.Consistent

/-! ## Accepted nets -/

/-- Every operation on the net finds what it looks up. -/
structure Net.StaysInside (net : Net) : Prop where
  arcsOf : ∀ transition < net.transitions.length,
    Guarded.arcsOf net transition = some (net.arcsOf transition)
  arcsAt : ∀ place < net.places.length, Guarded.arcsAt net place = some (net.arcsAt place)
  findArc? : ∀ place transition kind,
    Guarded.findArc? net place transition kind = some (net.findArc? place transition kind)
  addArc : ∀ place transition kind,
    Guarded.addArc net place transition kind = some (net.addArc place transition kind)
  /-- The net with another arc is accepted again. -/
  addArc_validate : ∀ place transition kind id grown,
    net.addArc place transition kind = .ok (id, grown) → grown.validate = .ok ()
  diagnose : Guarded.diagnose net = some net.diagnose
  /-- The exports look nothing up. What they write of an arc are its ends, which they write
  as nodes as well. -/
  ends_inside : ∀ arc ∈ net.arcs,
    arc.transition < net.transitions.length ∧ arc.place < net.places.length
  engine : Guarded.engine net = some (Engine.ofNet net)
  /-- Any operations, of which those that set a mark do so on a place of the net. -/
  performAll : ∀ {σ : Type} [WordSource σ] (marking : Marking) (operations : List (Operation σ)),
    marking.marks.length = net.places.length → (∀ operation ∈ operations, operation.Inside net) →
      Guarded.performAll (Engine.ofNet net) marking operations =
          some ((Engine.ofNet net).performAll marking operations) ∧
        ((Engine.ofNet net).performAll marking operations).state.marking.marks.length =
          net.places.length
  isQuiescent : ∀ (marking : Marking) (fired : FiredSources),
    marking.marks.length = net.places.length →
      Guarded.isQuiescent (Engine.ofNet net) marking fired =
        some ((Engine.ofNet net).isQuiescent marking fired)
  snapshot : ∀ marking : Marking, marking.marks.length = net.places.length →
    Guarded.snapshot net marking = some (marking.snapshot net)
  text : ∀ marking : Marking, marking.marks.length = net.places.length →
    Guarded.text net marking = some (marking.text net)
  runTrial : ∀ budget seed,
    Guarded.runTrial net budget seed = some (EventNet.runTrial net budget seed)
  runStory : ∀ budget seed story,
    Guarded.runStory net budget seed story = some (EventNet.runStory net budget seed story)
  runBatch : ∀ plan entropy,
    Guarded.runBatch net plan entropy = some (EventNet.runBatch net plan entropy)
  /-- The marking keeps one entry for every place during a run. -/
  sized_course : ∀ budget seed story,
    let course := (Engine.ofNet net).course budget seed story
    (∀ moment ∈ course.moments, moment.state.marking.marks.length = net.places.length) ∧
      course.final.marking.marks.length = net.places.length

theorem Net.Consistent.staysInside {net : Net} (consistent : net.Consistent) :
    net.StaysInside where
  arcsOf _ inside := consistent.guarded_arcsOf inside
  arcsAt _ inside := consistent.guarded_arcsAt inside
  findArc? := consistent.guarded_findArc?
  addArc := consistent.guarded_addArc
  addArc_validate _ _ _ _ _ added := Net.validate_eq_ok_iff.2 (consistent.addArc added)
  diagnose := consistent.guarded_diagnose
  ends_inside _ listed := consistent.ends_inside listed
  engine := consistent.guarded_engine
  performAll _ _ sized inside := consistent.guarded_foldlM_perform sized inside
  isQuiescent _ fired sized := consistent.guarded_isQuiescent sized fired
  snapshot _ sized := guarded_snapshot sized
  text _ sized := guarded_text sized
  runTrial budget seed := consistent.guarded_runStory budget seed []
  runStory := consistent.guarded_runStory
  runBatch := consistent.guarded_runBatch
  sized_course := consistent.sized_course

/-- **A net that has been accepted stays inside its tables**, and a net that comes out of a
document has been accepted. -/
theorem staysInside_of_accepted {net : Net}
    (accepted : net.validate = .ok () ∨ (∃ text, Net.ofJson text = .ok net) ∨
      ∃ text, Net.ofRon text = .ok net) :
    net.validate = .ok () ∧ net.StaysInside := by
  have consistent : net.Consistent := by
    obtain valid | ⟨text, loaded⟩ | ⟨text, loaded⟩ := accepted
    · exact Net.validate_eq_ok_iff.1 valid
    · exact Net.consistent_of_ofJson loaded
    · exact Net.consistent_of_ofRon loaded
  exact ⟨Net.validate_eq_ok_iff.2 consistent, consistent.staysInside⟩

/-- The rivals stay inside their tables. -/
theorem rivals_staysInside : Net.rivals.validate = .ok () ∧ Net.rivals.StaysInside :=
  staysInside_of_accepted (.inl Net.rivals_validate)

/-- A net that lists an arc it does not have fails as soon as an engine is made for it. -/
example : Guarded.engine { transitions := [{ name := "t", arcs := [0] }] } = none := rfl

end EventNet
