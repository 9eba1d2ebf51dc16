import EventNet.Proofs.Guarded.Lists
import EventNet.Proofs.Net.Breach

/-!
# Looking up while a net is checked

The check of a net is run on tables that may contradict each other, so it must not rely on
what it is there to find out. Most of what it looks up it asks for, and reports a violation
if there is nothing. It takes two things for granted: that the table of the transitions
listed so far, one entry for each, has an entry for a member of a bus, and in the end that
there is a transition for every entry of that table. Here the check is written with that
table, so that it fails where one of the two is wrong.

It never fails, whatever the net (`Net.guarded_validate`). A member is looked up only after
it has been found among the transitions, and the table stays the one of what has been
listed (`Net.guarded_listedInBuses`).

With what the check accepts (`Net.validate_eq_ok_iff`) and what its reports mean
(`Net.holds_of_violation?`) this says all of it (`Net.validate_decides`).
-/

set_option autoImplicit false

namespace EventNet

/-! ## The operations -/

namespace Guarded

/-- The table in which an entry has been set, which must be there. -/
def listEntry (table : List Bool) (transition : TransitionId) : Option (List Bool) := do
  let _ ← table[transition]?
  return table.set transition true

/-- Goes through the buses with a table of the transitions listed so far. The entry of a
member is looked up if the member is a transition of the right name. -/
def listedInBuses (net : Net) :
    List (String × List TransitionId) → List Bool → Option (Except NetError (List Bool))
  | [], table => some (.ok table)
  | (_, []) :: buses, table => listedInBuses net buses table
  | (label, member :: members) :: buses, table =>
    match net.transitions[member]? with
    | none => some (.error (.inconsistentBus label))
    | some entry =>
      if entry.name == label then do
        let listed ← table[member]?
        if listed then return .error (.inconsistentBus label)
        else
          let table ← listEntry table member
          listedInBuses net ((label, members) :: buses) table
      else some (.error (.inconsistentBus label))
  termination_by buses => buses.foldr (fun bus count => bus.2.length + 1 + count) 0

/-- The first entry of a table that is not set. -/
def firstUnlisted? (table : List Bool) : Option (Option TransitionId) :=
  (List.range table.length).findM? fun transition => do
    let listed ← table[transition]?
    return !listed

/-- What is wrong with the buses. The first transition that is not listed is looked up for
its name. -/
def busViolation? (net : Net) : Option (Option NetError) := do
  match ← listedInBuses net net.buses.entries (List.replicate net.transitions.length false) with
  | .error violation => return some violation
  | .ok table =>
    match ← firstUnlisted? table with
    | none => return none
    | some transition =>
      let entry ← net.transitions[transition]?
      return some (.inconsistentBus entry.name)

/-- The first breach of consistency. The arcs and their indices are asked for. -/
def violation? (net : Net) : Option (Option NetError) :=
  if net.placeArcs.length != net.places.length then
    some (some (.placeIndexLength net.places.length net.placeArcs.length))
  else
    match (net.arcs.zipIdx.findSome? fun (arc, id) => net.arcViolation? id arc)
      <|> (net.transitions.zipIdx.findSome? fun (transition, id) =>
        net.indexViolation? (fun arc => arc.transition == id) transition.arcs)
      <|> (net.placeArcs.zipIdx.findSome? fun (arcs, id) =>
        net.indexViolation? (fun arc => arc.place == id) arcs) with
    | some violation => some (some violation)
    | none => busViolation? net

/-- Accepts the net if it is consistent. -/
def validate (net : Net) : Option (Except NetError Unit) := do
  match ← violation? net with
  | none => return .ok ()
  | some violation => return .error violation

end Guarded

namespace Net

variable (net : Net)

/-! ## The table of listed transitions -/

/-- The table that has an entry for every transition, set for those that are listed. -/
def listingTable (listed : List TransitionId) : List Bool :=
  (List.range net.transitions.length).map listed.contains

variable {net} {listed : List TransitionId} {transition : TransitionId}

theorem length_listingTable : (net.listingTable listed).length = net.transitions.length := by
  simp [listingTable]

theorem getElem?_listingTable (inside : transition < net.transitions.length) :
    (net.listingTable listed)[transition]? = some (listed.contains transition) := by
  simp [listingTable, inside]

theorem listEntry_listingTable (inside : transition < net.transitions.length) :
    Guarded.listEntry (net.listingTable listed) transition =
      some (net.listingTable (transition :: listed)) := by
  simp only [Guarded.listEntry, getElem?_listingTable inside, Option.bind_eq_bind,
    Option.bind_some, Option.pure_def, Option.some.injEq]
  refine List.ext_getElem? fun other => ?_
  by_cases here : transition = other
  · subst here
    simp [listingTable, inside]
  · by_cases inTable : other < net.transitions.length
    · simp [listingTable, inTable, here, Ne.symm here]
    · simp [listingTable, inTable]

/-! ## The check -/

/-- **The search through the buses finds an entry for every member it looks up**, and its
table is that of the transitions listed so far. -/
theorem guarded_listedInBuses (buses : List (String × List TransitionId))
    (listed : List TransitionId) :
    Guarded.listedInBuses net buses (net.listingTable listed) =
      some ((net.listedInBuses buses listed).map net.listingTable) := by
  fun_induction listedInBuses net buses listed with
  | case1 listed => rw [Guarded.listedInBuses]; rfl
  | case2 listed label buses ih => rw [Guarded.listedInBuses, ih]
  | case3 label member members buses listed fresh ih =>
    obtain ⟨isNamed, unlisted⟩ := Bool.and_eq_true_iff.1 fresh
    obtain ⟨entry, found, named⟩ := Option.any_eq_true _ _ |>.1 isNamed
    have inside : member < net.transitions.length := (List.getElem?_eq_some_iff.1 found).1
    rw [Bool.not_eq_true'] at unlisted
    rw [Guarded.listedInBuses]
    simp only [found, named, if_true, getElem?_listingTable inside, unlisted,
      listEntry_listingTable inside, Option.bind_eq_bind, Option.bind_some, Bool.false_eq_true,
      if_false, ih]
  | case4 label member members buses listed stale =>
    rw [Guarded.listedInBuses]
    cases found : net.transitions[member]? with
    | none => rfl
    | some entry =>
      have inside : member < net.transitions.length := (List.getElem?_eq_some_iff.1 found).1
      simp only [found, Option.any_some, Bool.and_eq_true, Bool.not_eq_true'] at stale
      simp only [getElem?_listingTable inside, Option.bind_eq_bind, Option.bind_some]
      split
      · rename_i named
        have known : listed.contains member = true := by simpa [named] using stale
        rw [if_pos known]
        rfl
      · rfl

/-- A search by position in a list that carries its positions. -/
theorem find?_zipIdx_eq {α : Type} (items : List α) (wanted : Nat → Bool) :
    (items.zipIdx.find? fun entry => wanted entry.2).map Prod.snd =
      (List.range items.length).find? wanted := by
  have positions : items.zipIdx.map Prod.snd = List.range items.length := by
    simp [List.range_eq_range']
  rw [← positions, List.find?_map]
  rfl

theorem guarded_firstUnlisted? (listed : List TransitionId) :
    Guarded.firstUnlisted? (net.listingTable listed) =
      some ((net.transitions.zipIdx.find? fun entry => !listed.contains entry.2).map Prod.snd) := by
  rw [find?_zipIdx_eq net.transitions fun transition => !listed.contains transition,
    Guarded.firstUnlisted?, length_listingTable]
  refine Guarded.findM?_eq_some fun transition member => ?_
  rw [getElem?_listingTable (List.mem_range.1 member)]
  rfl

theorem guarded_busViolation? : Guarded.busViolation? net = some net.busViolation? := by
  have start : List.replicate net.transitions.length false = net.listingTable [] :=
    (List.eq_replicate_iff.2 ⟨length_listingTable, by simp [listingTable]⟩).symm
  rw [Guarded.busViolation?, start, guarded_listedInBuses, Option.bind_eq_bind, Option.bind_some,
    busViolation?]
  cases net.listedInBuses net.buses.entries [] with
  | error violation => rfl
  | ok listed =>
    simp only [Except.map, guarded_firstUnlisted?, Option.bind_eq_bind, Option.bind_some]
    cases found : net.transitions.zipIdx.find? fun entry => !listed.contains entry.2 with
    | none => rfl
    | some unlisted =>
      have atPosition := List.mem_zipIdx_iff_getElem?.1 (List.mem_of_find?_eq_some found)
      simp only [Option.map_some, atPosition, Option.bind_some]
      rfl

theorem guarded_violation? : Guarded.violation? net = some net.violation? := by
  unfold Guarded.violation? violation?
  split
  · rfl
  · -- the buses are looked at if none of the other three searches has found anything
    rw [guarded_busViolation?]
    simp only [Option.orElse_eq_orElse, Option.orElse_eq_or, ← Option.or_assoc]
    split
    · rename_i found
      rw [found]
      rfl
    · rename_i none
      rw [none]
      rfl

/-- **The check stays inside the tables**, whatever they are. -/
theorem guarded_validate (net : Net) : Guarded.validate net = some net.validate := by
  rw [Guarded.validate, guarded_violation?, Option.bind_eq_bind, Option.bind_some, validate]
  cases net.violation? <;> rfl

theorem validate_eq_error_iff {error : NetError} :
    net.validate = .error error ↔ net.violation? = some error := by
  unfold validate
  cases net.violation? <;> simp

/-- **The check decides consistency, and what it reports is true.** It finds everything it
looks up, whatever the net. -/
theorem validate_decides (net : Net) :
    Guarded.validate net = some net.validate ∧
      (net.validate = .ok () ↔ net.Consistent) ∧
        ∀ error : NetError, (net.validate = .error error → error.Holds net) ∧
          (error.Holds net → ¬net.Consistent) :=
  ⟨guarded_validate net, validate_eq_ok_iff, fun _ =>
    ⟨fun reported => holds_of_violation? (validate_eq_error_iff.1 reported),
      NetError.Holds.not_consistent⟩⟩

/-- If a bus of the rivals lists an instance twice, this bus is reported, and with reason. -/
theorem crowded_validate :
    let crowded : Net :=
      { rivals with buses := ⟨[("left", [0, 2, 0]), ("right", [1]), ("spring", [3])], by decide⟩ }
    crowded.validate = .error (.inconsistentBus "left") ∧
      (NetError.inconsistentBus "left").Holds crowded ∧ ¬crowded.Consistent := by
  intro crowded
  have reported : crowded.validate = .error (.inconsistentBus "left") := by decide +kernel
  have holds := ((validate_decides crowded).2.2 _).1 reported
  exact ⟨reported, holds, ((validate_decides crowded).2.2 _).2 holds⟩

end Net

end EventNet
