import EventNet.Fields

/-!
# What a description of fields makes of a record

A description makes a value of a list of members if it takes them in one after another,
gives this value at the end, and has no other fields (`Fields.Makes`). Whatever the
format of a document, a record that is written field by field is understood by the
description with the same fields: the fact is proved for a single field and carried
along when descriptions are joined (`Makes.both`) and their results are put together
(`Makes.map`).
-/

set_option autoImplicit false

namespace EventNet.Fields

variable {ρ ε α β : Type}

/-- Taking in members one after another leads from one state of gathering to another. -/
inductive Takes (fields : Fields ρ ε α) :
    List (String × ρ) → fields.Gathered → fields.Gathered → Prop
  | nil (gathered : fields.Gathered) : Takes fields [] gathered gathered
  | cons {name : String} {value : ρ} {members : List (String × ρ)}
      {before between after : fields.Gathered}
      (accepted : fields.accept name value before = some (.ok between))
      (more : Takes fields members between after) :
    Takes fields ((name, value) :: members) before after

/-- There is no field of this name. -/
def Ignores (fields : Fields ρ ε α) (name : String) : Prop :=
  ∀ (value : ρ) (gathered : fields.Gathered), fields.accept name value gathered = none

/-- These members, and no others, make this value. -/
structure Makes (fields : Fields ρ ε α) (members : List (String × ρ)) (value : α) : Prop where
  /-- The members are taken in, and the value comes out. -/
  taken : ∃ gathered : fields.Gathered,
    Takes fields members fields.start gathered ∧ fields.finish gathered = .ok value
  /-- There are no other fields. -/
  others : ∀ name ∉ members.map Prod.fst, fields.Ignores name

variable {first : Fields ρ ε α} {second : Fields ρ ε β}

theorem Takes.append {fields : Fields ρ ε α} {left right : List (String × ρ)}
    {before between after : fields.Gathered} (start : Takes fields left before between)
    (more : Takes fields right between after) : Takes fields (left ++ right) before after := by
  induction start with
  | nil => exact more
  | cons accepted _ ih => exact .cons accepted (ih more)

theorem Takes.map {fields : Fields ρ ε α} {members : List (String × ρ)}
    {before after : fields.Gathered} (taken : Takes fields members before after)
    (make : α → β) :
    Takes (fields.map make) members before after := by
  induction taken with
  | nil => exact .nil _
  | cons accepted _ ih => exact .cons accepted ih

/-- The first of two descriptions takes in its members. -/
theorem Takes.left {members : List (String × ρ)} {before after : first.Gathered}
    (taken : Takes first members before after) (other : second.Gathered) :
    Takes (first.both second) members (before, other) (after, other) := by
  induction taken with
  | nil => exact .nil _
  | @cons name value _ before between _ accepted _ ih =>
    have passed : (first.both second).accept name value (before, other) =
        some (.ok (between, other)) := by
      simp only [both, accepted]
      rfl
    exact .cons passed ih

/-- The second of two descriptions takes in its members, if the first has no such fields. -/
theorem Takes.right {members : List (String × ρ)} {before after : second.Gathered}
    (taken : Takes second members before after)
    (ignored : ∀ name ∈ members.map Prod.fst, first.Ignores name) (other : first.Gathered) :
    Takes (first.both second) members (other, before) (other, after) := by
  induction taken with
  | nil => exact .nil _
  | @cons name value _ before between _ accepted _ ih =>
    rw [List.map_cons, List.forall_mem_cons] at ignored
    have passed : (first.both second).accept name value (other, before) =
        some (.ok (other, between)) := by
      simp only [both, ignored.1 value other, accepted]
      rfl
    exact .cons passed (ih ignored.2)

theorem makes_single {unfit : ε} {missing absent : Option α} {name : String}
    {decode : ρ → Except ε α} {written : ρ} {value : α} (read : decode written = .ok value) :
    (single unfit missing absent name decode).Makes [(name, written)] value where
  taken := by
    refine ⟨some value, .cons ?_ (.nil _), rfl⟩
    show (if name = name then _ else none) = _
    rw [if_pos rfl, read]
    rfl
  others := by
    intro other absent value gathered
    have different : other ≠ name := fun same => absent (by simp [same])
    exact if_neg different

/-- Joined descriptions make a pair of the members of both, if no field is in both. -/
theorem Makes.both {left right : List (String × ρ)} {a : α} {b : β} (one : first.Makes left a)
    (two : second.Makes right b)
    (apart : ∀ name ∈ right.map Prod.fst, name ∉ left.map Prod.fst) :
    (first.both second).Makes (left ++ right) (a, b) where
  taken := by
    obtain ⟨start, takenLeft, finishedLeft⟩ := one.taken
    obtain ⟨after, takenRight, finishedRight⟩ := two.taken
    have ignored : ∀ name ∈ right.map Prod.fst, first.Ignores name := fun name listed =>
      one.others name (apart name listed)
    refine ⟨(start, after), ?_, ?_⟩
    · exact (takenLeft.left second.start).append (takenRight.right ignored start)
    · show (do let l ← first.finish start; let r ← second.finish after; return (l, r)) = _
      rw [finishedLeft, finishedRight]
      rfl
  others := by
    intro name absent value gathered
    rw [List.map_append, List.mem_append, not_or] at absent
    simp only [Fields.both, one.others name absent.1 value gathered.1,
      two.others name absent.2 value gathered.2, Option.map_none]

theorem Makes.map {fields : Fields ρ ε α} {members : List (String × ρ)} {value : α}
    (made : fields.Makes members value) (make : α → β) :
    (fields.map make).Makes members (make value) where
  taken := by
    obtain ⟨gathered, taken, finished⟩ := made.taken
    refine ⟨gathered, taken.map make, ?_⟩
    show (fields.finish gathered).map make = _
    rw [finished]
    rfl
  others := made.others

end EventNet.Fields
