import EventNet.Host
import EventNet.Program.Failure
import Mathlib.Data.String.Basic

/-!
# Systems and what a computation leaves as it was

A program runs in surroundings with a state. A view tells of a state what the files are and
what has been printed, and of files what is found at a path (`View`). What the files are is left
open: they may lack permissions, hold no text, or be of any other kind. A system is a view that
the operations of the surroundings respect (`System`): what is found at a path is found in the
files, and looking at files, making records and drawing seeds neither changes a file nor prints.
Nothing is asked of writing, which may fail or succeed as it likes. The simulated surroundings
are a system (`Surroundings.system`).

A computation answers from a state when it comes out that way and by then no file has changed
and nothing has been printed (`View.Answers`). For one that may fail, the answer is its outcome
(`View.Ends`, and `View.Fails` for a failure). What is known of two computations is put together
for one after the other (`View.Ends.bind_ok`, `View.Fails.bind`, `View.Fails.behind`).
-/

set_option autoImplicit false

namespace EventNet

variable {σ α β ε : Type}

/-- How a state is looked at. -/
structure View (σ : Type) where
  /-- What the files of a state can be. -/
  Files : Type
  files : σ → Files
  /-- There is a file or directory at a path. -/
  isPresent : Files → String → Bool
  /-- What comes of reading the file at a path. -/
  read : Files → String → Except FileError String
  /-- What has been printed. -/
  printed : σ → String

namespace View

variable {view : View σ}

/-- From one state to the other no file has changed, and nothing has been printed. -/
structure Same (view : View σ) (before after : σ) : Prop where
  files_eq : view.files after = view.files before
  printed_eq : view.printed after = view.printed before

theorem Same.refl (here : σ) : view.Same here here := ⟨rfl, rfl⟩

theorem Same.trans {before here after : σ} (first : view.Same before here)
    (second : view.Same here after) : view.Same before after :=
  ⟨second.files_eq.trans first.files_eq, second.printed_eq.trans first.printed_eq⟩

/-- A computation comes out with an answer, and all is as it was. -/
def Answers (view : View σ) (here : σ) (action : StateM σ α) (answer : α) : Prop :=
  ∃ after, action.run here = (answer, after) ∧ view.Same here after

/-- A computation that may fail comes out in some way, and all is as it was. -/
abbrev Ends (view : View σ) (here : σ) (action : ExceptT ε (StateM σ) α)
    (outcome : Except ε α) : Prop :=
  view.Answers here action.run outcome

/-- A computation fails, and all is as it was. -/
def Fails (view : View σ) (here : σ) (action : ExceptT ε (StateM σ) α) : Prop :=
  ∃ error, view.Ends here action (.error error)

variable {here : σ}

theorem Answers.pure (answer : α) : view.Answers here (pure answer) answer :=
  ⟨here, rfl, .refl here⟩

/-- What comes behind an answer starts from a state in which all is as it was. -/
theorem Answers.bind {action : StateM σ α} {next : α → StateM σ β} {answer : α} {result : β}
    (first : view.Answers here action answer)
    (rest : ∀ after, view.Same here after → view.Answers after (next answer) result) :
    view.Answers here (action >>= next) result := by
  obtain ⟨middle, ran, same⟩ := first
  obtain ⟨after, finished, later⟩ := rest middle same
  refine ⟨after, ?_, same.trans later⟩
  rw [StateT.run_bind, ran]
  exact finished

namespace Ends

variable {action : ExceptT ε (StateM σ) α} {next : α → ExceptT ε (StateM σ) β}

theorem pure (value : α) : view.Ends here (pure value : ExceptT ε (StateM σ) α) (.ok value) :=
  Answers.pure _

/-- What cannot fail ends with its answer. -/
theorem lift {operation : StateM σ α} {answer : α} (first : view.Answers here operation answer) :
    view.Ends here (ExceptT.lift operation : ExceptT ε (StateM σ) α) (.ok answer) := by
  rw [Ends, ExceptT.run_lift, map_eq_pure_bind]
  exact first.bind fun _ _ => Answers.pure _

/-- Behind something that ends well a computation goes on. -/
theorem exists_run_bind {value : α} (first : view.Ends here action (.ok value))
    (next : α → ExceptT ε (StateM σ) β) :
    ∃ after, view.Same here after ∧
      (action >>= next).run.run here = (next value).run.run after := by
  obtain ⟨after, ran, same⟩ := first
  refine ⟨after, same, ?_⟩
  rw [ExceptT.run_bind, StateT.run_bind, ran]
  rfl

theorem bind_ok {value : α} {outcome : Except ε β} (first : view.Ends here action (.ok value))
    (rest : ∀ after, view.Same here after → view.Ends after (next value) outcome) :
    view.Ends here (action >>= next) outcome := by
  obtain ⟨middle, same, ran⟩ := first.exists_run_bind next
  obtain ⟨after, finished, later⟩ := rest middle same
  exact ⟨after, ran.trans finished, same.trans later⟩

/-- A loop ends well if every round does. -/
theorem forIn_ok {items : List α} {body : α → PUnit → ExceptT ε (StateM σ) (ForInStep PUnit)}
    (round : ∀ item here, view.Ends here (body item ⟨⟩) (.ok (.yield ⟨⟩))) :
    view.Ends here (forIn items PUnit.unit body) (.ok ⟨⟩) := by
  induction items generalizing here with
  | nil => exact .pure _
  | cons item items ih =>
    rw [List.forIn_cons]
    exact (round item here).bind_ok fun _ _ => ih

end Ends

namespace Fails

variable {action : ExceptT ε (StateM σ) α} {next : α → ExceptT ε (StateM σ) β}

theorem throw (error : ε) : view.Fails here (throw error : ExceptT ε (StateM σ) α) :=
  ⟨error, Answers.pure _⟩

/-- What comes behind a failure does not happen. -/
theorem bind (first : view.Fails here action) : view.Fails here (action >>= next) := by
  obtain ⟨error, failed⟩ := first
  refine ⟨error, ?_⟩
  rw [Ends, ExceptT.run_bind]
  exact failed.bind fun _ _ => Answers.pure _

/-- A failure behind something that ends well is a failure of the whole. -/
theorem behind {value : α} (first : view.Ends here action (.ok value))
    (rest : ∀ after, view.Same here after → view.Fails after (next value)) :
    view.Fails here (action >>= next) := by
  obtain ⟨middle, same, ran⟩ := first.exists_run_bind next
  obtain ⟨error, after, failed, later⟩ := rest middle same
  exact ⟨error, after, ran.trans failed, same.trans later⟩

end Fails

end View

/-- All failures that a computation can have are of a kind. -/
def FailsOnly (kind : ε → Prop) (action : ExceptT ε (StateM σ) α) : Prop :=
  ∀ here error after, action.run.run here = (.error error, after) → kind error

namespace FailsOnly

variable {kind : ε → Prop} {action : ExceptT ε (StateM σ) α} {next : α → ExceptT ε (StateM σ) β}

theorem pure (value : α) : FailsOnly kind (pure value : ExceptT ε (StateM σ) α) := by
  intro here error after failed
  cases failed

/-- What cannot fail has no failures. -/
theorem lift (operation : StateM σ α) :
    FailsOnly kind (ExceptT.lift operation : ExceptT ε (StateM σ) α) := by
  intro here error after failed
  rw [ExceptT.run_lift] at failed
  cases failed

theorem bind (first : FailsOnly kind action) (rest : ∀ value, FailsOnly kind (next value)) :
    FailsOnly kind (action >>= next) := by
  intro here error after failed
  rw [ExceptT.run_bind, StateT.run_bind] at failed
  cases ran : action.run.run here with
  | mk outcome middle =>
    rw [ran] at failed
    cases outcome with
    | error other =>
      cases failed
      exact first here _ _ ran
    | ok value => exact rest value middle error after failed

theorem mapM {items : List α} {body : α → ExceptT ε (StateM σ) β}
    (round : ∀ item, FailsOnly kind (body item)) : FailsOnly kind (items.mapM body) := by
  induction items with
  | nil => exact .pure _
  | cons item items ih =>
    rw [List.mapM_cons]
    exact (round item).bind fun _ => ih.bind fun _ => .pure _

theorem recordAll [Host (StateM σ)] (log : Log) :
    FailsOnly kind (Host.recordAll log : ExceptT ε (StateM σ) Unit) := by
  unfold Host.recordAll
  induction log with
  | nil => exact .pure _
  | cons record log ih => exact (FailsOnly.lift _).bind fun _ => ih

end FailsOnly

/-- A view that the operations of the surroundings respect. -/
structure System (σ : Type) [Host (StateM σ)] extends View σ where
  answers_isPresent : ∀ path here,
    toView.Answers here (Host.isPresent path) (isPresent (files here) path)
  answers_read : ∀ path here, toView.Answers here (Host.read path) (read (files here) path)
  answers_record : ∀ record here, toView.Answers here (Host.record record) ()
  answers_drawSeed : ∀ here, ∃ seed, toView.Answers here Host.drawSeed seed

namespace System

variable [Host (StateM σ)] (system : System σ)

/-- Records of a computation that may fail are made one by one. -/
theorem ends_recordAll (log : Log) (here : σ) :
    system.Ends here (Host.recordAll log : ExceptT ε (StateM σ) Unit) (.ok ()) := by
  unfold Host.recordAll
  induction log generalizing here with
  | nil => exact .pure _
  | cons record log ih =>
    exact (View.Ends.lift (system.answers_record record here)).bind_ok fun after _ => ih after

end System

/-- In simulated surroundings the files are those of the file tree. -/
def Surroundings.system : System Surroundings where
  Files := FileTree
  files here := here.files
  isPresent := FileTree.isPresent
  read := FileTree.read
  printed here := here.printed
  answers_isPresent _ here := ⟨here, rfl, rfl, rfl⟩
  answers_read _ here := ⟨here, rfl, rfl, rfl⟩
  answers_record _ _ := ⟨_, rfl, rfl, rfl⟩
  answers_drawSeed _ := ⟨_, _, rfl, rfl, rfl⟩

/-- Where no separator is left, the part of a path that has been begun goes on to the end. -/
theorem splitOnAux_of_no_separator (before : List Char) {rest : List Char} (single : '/' ∉ rest) :
    (String.ofList (before ++ rest)).splitOnAux "/" 0 ⟨String.utf8Len before⟩ 0 [] =
      [String.ofList (before ++ rest)] := by
  induction rest generalizing before with
  | nil =>
    have ended : (⟨String.utf8Len before⟩ : String.Pos.Raw) = (String.ofList before).rawEndPos :=
      (String.rawEndPos_ofList before).symm
    rw [List.append_nil, String.splitOnAux, ended, if_pos (by simp), String.extract_zero_rawEndPos]
    rfl
  | cons c rest ih =>
    rw [List.mem_cons, not_or] at single
    have inside : ¬String.Pos.Raw.atEnd (String.ofList (before ++ c :: rest))
        ⟨String.utf8Len before⟩ = true := by
      rw [String.atEnd_of_valid]
      exact List.cons_ne_nil _ _
    have other : ¬(String.Pos.Raw.get (String.ofList (before ++ c :: rest))
        ⟨String.utf8Len before⟩ == String.Pos.Raw.get "/" 0) = true := by
      rw [String.get_of_valid]
      exact fun same => single.1 (eq_of_beq same).symm
    have onward : String.Pos.Raw.next (String.ofList (before ++ c :: rest))
        ⟨String.utf8Len before⟩ = ⟨String.utf8Len (before ++ [c])⟩ := by
      rw [String.next_of_valid, String.utf8Len_append]
      simp
    have further := ih (before ++ [c]) single.2
    rw [List.append_assoc, List.singleton_append] at further
    rw [String.splitOnAux, if_neg inside, if_neg other]
    exact (congrArg (String.splitOnAux _ _ _ · _ _) onward).trans further

theorem splitOn_of_no_separator {name : String} (single : '/' ∉ name.toList) :
    name.splitOn "/" = [name] := by
  have whole := splitOnAux_of_no_separator [] single
  rw [List.nil_append, String.ofList_toList] at whole
  rw [String.splitOn, if_neg (by decide)]
  exact whole

/-- A name in the root leads to the place with this name. -/
theorem FileTree.locate_name (tree : FileTree) {name : String} (single : '/' ∉ name.toList)
    (proper : name ∉ ["", ".", ".."]) : tree.locate name = .ok [name] := by
  simp only [List.mem_cons, List.not_mem_nil, or_false, not_or] at proper
  obtain ⟨nonempty, noPoint, noPoints⟩ := proper
  simp [locate, splitOn_of_no_separator single, placeOf, follow, at?, nonempty, noPoint, noPoints]

end EventNet
