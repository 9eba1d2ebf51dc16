import EventNet.Net.Growth
import EventNet.Proofs.Net.Consistent

/-!
# Consistent nets grow into consistent nets

A new place has no arcs, a new transition has none either and becomes the last member of
its bus, and a new arc is the last of the arc table and the last entry of two indices. All
three leave what a net says about its older nodes untouched, so a consistent net stays
consistent (`Consistent.addPlace`, `Consistent.addTransition`, `Consistent.addArc`).

Adding an arc succeeds exactly if both of its ends exist (`addArc_eq_ok_iff`), and the
search for an arc that is there already finds every arc of the table
(`Consistent.findArc?_eq_none_iff`).
-/

set_option autoImplicit false

namespace EventNet

/-- What a list holds at a position it holds there in every longer list. -/
theorem getElem?_append_of_eq_some {α : Type} {items more : List α} {position : Nat} {item : α}
    (found : items[position]? = some item) : (items ++ more)[position]? = some item := by
  rw [List.getElem?_append_left (List.getElem?_eq_some_iff.1 found).1, found]

/-- In a list with one more item there is at a position what was there, or the new item. -/
theorem getElem?_concat_eq_some_iff {α : Type} {items : List α} {last item : α} {position : Nat} :
    (items ++ [last])[position]? = some item ↔
      items[position]? = some item ∨ position = items.length ∧ item = last := by
  rcases Nat.lt_trichotomy position items.length with inside | here | outside
  · rw [List.getElem?_append_left inside]
    simp [Nat.ne_of_lt inside]
  · subst here
    simp [eq_comm]
  · rw [List.getElem?_append_right (Nat.le_of_lt outside)]
    obtain ⟨beyond, later⟩ := Nat.exists_eq_add_of_lt outside
    have past : position - items.length = beyond + 1 := by omega
    simp [past, Nat.ne_of_gt outside, Nat.le_of_lt outside]

/-- A change that keeps a part of every item keeps the parts of a list. -/
theorem map_modify_of_eq {α β : Type} {change : α → α} {part : α → β}
    (same : ∀ item, part (change item) = part item) (items : List α) (position : Nat) :
    (items.modify position change).map part = items.map part := by
  refine List.ext_getElem? fun other => ?_
  rw [List.getElem?_map, List.getElem?_map, List.getElem?_modify]
  cases items[other]? with
  | none => rfl
  | some item =>
    simp only [Option.map_eq_map, Option.map_some]
    split
    · rw [same]
    · rfl

namespace LabelMap

variable {label : String} {member : TransitionId} {entries : List (String × List TransitionId)}

/-- The entries of a map of lists after a member has been added under a label. -/
abbrev joinEntries (label : String) (member : TransitionId) :
    List (String × List TransitionId) → List (String × List TransitionId) :=
  upsertEntries label fun members => members.getD [] ++ [member]

/-- A member that joins is a further one of all members. -/
theorem flatMap_joinEntries_perm :
    ((joinEntries label member entries).flatMap Prod.snd).Perm
      (entries.flatMap Prod.snd ++ [member]) := by
  induction entries with
  | nil => simp [joinEntries, upsertEntries]
  | cons entry rest ih =>
    obtain ⟨key, members⟩ := entry
    by_cases here : key = label
    · simp only [joinEntries, upsertEntries, if_pos here, List.flatMap_cons, Option.getD_some,
        List.append_assoc]
      exact List.perm_append_comm.append_left members
    · simp only [joinEntries, upsertEntries, if_neg here, List.flatMap_cons, List.append_assoc]
      exact ih.append_left members

/-- An entry after a member has joined is an entry from before, or one with its label to
which the member has been added. -/
theorem mem_joinEntries {entry : String × List TransitionId}
    (joined : entry ∈ joinEntries label member entries) :
    entry ∈ entries ∨ entry.1 = label ∧
      ∃ members, (members = [] ∨ (label, members) ∈ entries) ∧ entry.2 = members ++ [member] := by
  induction entries with
  | nil =>
    simp only [joinEntries, upsertEntries, List.mem_singleton] at joined
    subst joined
    exact .inr ⟨rfl, [], .inl rfl, rfl⟩
  | cons first rest ih =>
    obtain ⟨key, members⟩ := first
    by_cases here : key = label
    · subst here
      simp only [joinEntries, upsertEntries, if_true, List.mem_cons] at joined
      rcases joined with rfl | later
      · exact .inr ⟨rfl, members, .inr List.mem_cons_self, rfl⟩
      · exact .inl (List.mem_cons_of_mem _ later)
    · simp only [joinEntries, upsertEntries, if_neg here, List.mem_cons] at joined
      rcases joined with rfl | later
      · exact .inl List.mem_cons_self
      · rcases ih later with old | ⟨same, before, listed, extended⟩
        · exact .inl (List.mem_cons_of_mem _ old)
        · exact .inr ⟨same, before, listed.imp_right (List.mem_cons_of_mem _), extended⟩

end LabelMap

namespace Net

variable {net : Net}

/-! ## Places and transitions -/

theorem Consistent.empty : Net.empty.Consistent where
  placeIndex_length := rfl
  arc_listed := by simp [Net.empty]
  transition_lists := by simp [Net.empty]
  place_lists := by simp [Net.empty]
  bus_named := by simp [Net.empty, LabelMap.empty]
  buses_complete := by simp [Net.empty, busMembers, LabelMap.empty]

/-- Consistency does not depend on what the places are. -/
theorem Consistent.withPlaces (consistent : net.Consistent) {places : List Place}
    (length : places.length = net.places.length) : { net with places }.Consistent :=
  ⟨consistent.placeIndex_length.trans length.symm, consistent.arc_listed,
    consistent.transition_lists, consistent.place_lists, consistent.bus_named,
    consistent.buses_complete⟩

theorem Consistent.addPlace (consistent : net.Consistent) (place : Place) :
    (net.addPlace place).2.Consistent := by
  refine ⟨?_, ?_, consistent.transition_lists, ?_, consistent.bus_named,
    consistent.buses_complete⟩
  · simp [Net.addPlace, consistent.placeIndex_length]
  · intro id arc found
    obtain ⟨atTransition, index, atPlace, listed⟩ := consistent.arc_listed id arc found
    exact ⟨atTransition, index, getElem?_append_of_eq_some atPlace, listed⟩
  · intro id index found listed inIndex
    rcases getElem?_concat_eq_some_iff.1 found with old | ⟨-, rfl⟩
    · exact consistent.place_lists id index old listed inIndex
    · simp at inIndex

/-- An older transition keeps its name. -/
theorem nameOf?_addTransition {name label : String} {transition : TransitionId}
    (named : net.nameOf? transition = some label) :
    (net.addTransition name).2.nameOf? transition = some label := by
  obtain ⟨entry, found, same⟩ := Option.map_eq_some_iff.1 named
  exact Option.map_eq_some_iff.2 ⟨entry, getElem?_append_of_eq_some found, same⟩

theorem nameOf?_addTransition_length (net : Net) (name : String) :
    (net.addTransition name).2.nameOf? net.transitions.length = some name := by
  simp [nameOf?, Net.addTransition]

theorem Consistent.addTransition (consistent : net.Consistent) (name : String) :
    (net.addTransition name).2.Consistent := by
  refine ⟨consistent.placeIndex_length, ?_, ?_, consistent.place_lists, ?_, ?_⟩
  · intro id arc found
    obtain ⟨⟨entry, atTransition, listed⟩, atPlace⟩ := consistent.arc_listed id arc found
    exact ⟨⟨entry, getElem?_append_of_eq_some atTransition, listed⟩, atPlace⟩
  · intro id entry found listed inEntry
    rcases getElem?_concat_eq_some_iff.1 found with old | ⟨-, rfl⟩
    · exact consistent.transition_lists id entry old listed inEntry
    · simp at inEntry
  · intro bus joined transition inBus
    rcases LabelMap.mem_joinEntries joined with old | ⟨label, members, before, extended⟩
    · exact nameOf?_addTransition (consistent.bus_named bus old transition inBus)
    · rw [extended, List.mem_append, List.mem_singleton] at inBus
      rw [label]
      rcases inBus with inMembers | rfl
      · rcases before with rfl | listed
        · simp at inMembers
        · exact nameOf?_addTransition (consistent.bus_named _ listed transition inMembers)
      · exact nameOf?_addTransition_length net name
  · have joined : (net.addTransition name).2.busMembers.Perm
        (net.busMembers ++ [net.transitions.length]) := LabelMap.flatMap_joinEntries_perm
    have length : (net.addTransition name).2.transitions.length = net.transitions.length + 1 := by
      simp [Net.addTransition]
    rw [length, List.range_succ]
    exact joined.trans (consistent.buses_complete.append_right _)

/-! ## Arcs -/

/-- **All that adding an arc can come to**: both ends must exist, and then the arc is found
or is new. -/
theorem addArc_eq_ok_iff {place : PlaceId} {transition : TransitionId} {kind : ArcKind}
    {id : ArcId} {next : Net} :
    net.addArc place transition kind = .ok (id, next) ↔
      place < net.places.length ∧ transition < net.transitions.length ∧
        (net.findArc? place transition kind = some id ∧ next = net ∨
          net.findArc? place transition kind = none ∧ id = net.arcs.length ∧
            next = net.appendArc { place, transition, kind }) := by
  unfold addArc
  by_cases inPlaces : place < net.places.length
  · by_cases inTransitions : transition < net.transitions.length
    · rw [if_neg (Nat.not_le.2 inPlaces), if_neg (Nat.not_le.2 inTransitions)]
      cases net.findArc? place transition kind with
      | none => simp [inPlaces, inTransitions, eq_comm]
      | some existing => simp [inPlaces, inTransitions, eq_comm]
    · simp [inTransitions, Nat.not_lt.1 inTransitions, ite_eq_iff]
  · simp [inPlaces, Nat.not_lt.1 inPlaces]

/-- A search for an arc that is not there has looked through all arcs of the table. -/
theorem Consistent.findArc?_eq_none_iff (consistent : net.Consistent) {place : PlaceId}
    {transition : TransitionId} {kind : ArcKind} :
    net.findArc? place transition kind = none ↔ ¬net.HasArc kind transition place := by
  constructor
  · intro none arc
    obtain ⟨id, atId⟩ := List.getElem?_of_mem arc
    obtain ⟨⟨entry, found, listed⟩, -⟩ := consistent.arc_listed id _ atId
    simp only [findArc?, found, Option.bind_eq_bind, Option.bind_some, List.find?_eq_none] at none
    exact none id listed (by simp [atId])
  · intro absent
    unfold findArc?
    cases found : net.transitions[transition]? with
    | none => rfl
    | some entry =>
      simp only [Option.bind_eq_bind, Option.bind_some, List.find?_eq_none]
      intro id listed same
      obtain ⟨⟨other, _, sort⟩, atId, rfl⟩ :=
        consistent.transition_lists transition entry found id listed
      simp only [atId, Option.any_some, Bool.and_eq_true, beq_iff_eq] at same
      obtain ⟨rfl, rfl⟩ := same
      exact absent (List.mem_of_getElem? atId)

section AppendArc

variable {arc : Arc}

theorem getElem?_transitions_appendArc {id : TransitionId} {entry : Transition} :
    (net.appendArc arc).transitions[id]? = some entry ↔
      ∃ before, net.transitions[id]? = some before ∧
        entry = if arc.transition = id then
          { before with arcs := before.arcs ++ [net.arcs.length] } else before := by
  simp only [appendArc, List.getElem?_modify, Option.map_eq_map, Option.map_eq_some_iff]
  exact exists_congr fun before => and_congr_right fun _ => eq_comm

theorem arcs_grown {entry : Transition} {joins : Prop} [Decidable joins] {last : ArcId} :
    (if joins then { entry with arcs := entry.arcs ++ [last] } else entry).arcs =
      if joins then entry.arcs ++ [last] else entry.arcs :=
  apply_ite Transition.arcs _ _ _

theorem getElem?_placeArcs_appendArc {id : PlaceId} {index : List ArcId} :
    (net.appendArc arc).placeArcs[id]? = some index ↔
      ∃ before, net.placeArcs[id]? = some before ∧
        index = if arc.place = id then before ++ [net.arcs.length] else before := by
  simp only [appendArc, List.getElem?_modify, Option.map_eq_map, Option.map_eq_some_iff]
  exact exists_congr fun before => and_congr_right fun _ => eq_comm

theorem names_appendArc (net : Net) (arc : Arc) :
    (net.appendArc arc).transitions.map Transition.name = net.transitions.map Transition.name := by
  refine map_modify_of_eq ?_ _ _
  exact fun _ => rfl

theorem nameOf?_appendArc (net : Net) (arc : Arc) (id : TransitionId) :
    (net.appendArc arc).nameOf? id = net.nameOf? id := by
  rw [nameOf?, nameOf?, ← List.getElem?_map, ← List.getElem?_map, names_appendArc]

/-- An index that may have been given the new arc lists what it listed before, and the new
arc if it was given it. -/
theorem lists_appendArc {index : List ArcId} {joins : Prop} [Decidable joins]
    {belongs : Arc → Prop} (new : joins → belongs arc)
    (lists : ∀ listed ∈ index, ∃ old : Arc, net.arcs[listed]? = some old ∧ belongs old) :
    ∀ listed ∈ (if joins then index ++ [net.arcs.length] else index),
      ∃ old : Arc, (net.appendArc arc).arcs[listed]? = some old ∧ belongs old := by
  have older : ∀ listed ∈ index, ∃ old : Arc,
      (net.appendArc arc).arcs[listed]? = some old ∧ belongs old := by
    intro listed inIndex
    obtain ⟨old, found, belonging⟩ := lists listed inIndex
    exact ⟨old, getElem?_append_of_eq_some found, belonging⟩
  split
  · rename_i joined
    intro listed inGrown
    rcases List.mem_append.1 inGrown with inIndex | last
    · exact older listed inIndex
    · rw [List.mem_singleton.1 last]
      exact ⟨arc, List.getElem?_concat_length, new joined⟩
  · exact older

/-- What an index listed it lists still. -/
theorem mem_of_mem_index {index : List ArcId} {joins : Prop} [Decidable joins] {id last : ArcId}
    (listed : id ∈ index) : id ∈ if joins then index ++ [last] else index := by
  split
  · exact List.mem_append_left _ listed
  · exact listed

theorem Consistent.appendArc (consistent : net.Consistent)
    (inTransitions : arc.transition < net.transitions.length)
    (inPlaces : arc.place < net.places.length) : (net.appendArc arc).Consistent := by
  refine ⟨?_, ?_, ?_, ?_, ?_, ?_⟩
  · simp [Net.appendArc, consistent.placeIndex_length]
  · intro id entry found
    rcases getElem?_concat_eq_some_iff.1 found with old | ⟨rfl, rfl⟩
    · obtain ⟨⟨transition, atTransition, inEntry⟩, index, atPlace, inIndex⟩ :=
        consistent.arc_listed id entry old
      refine ⟨⟨_, getElem?_transitions_appendArc.2 ⟨transition, atTransition, rfl⟩, ?_⟩,
        _, getElem?_placeArcs_appendArc.2 ⟨index, atPlace, rfl⟩, mem_of_mem_index inIndex⟩
      rw [arcs_grown]
      exact mem_of_mem_index inEntry
    · have inIndices : entry.place < net.placeArcs.length :=
        consistent.placeIndex_length ▸ inPlaces
      refine ⟨⟨_, getElem?_transitions_appendArc.2
        ⟨_, List.getElem?_eq_getElem inTransitions, rfl⟩, ?_⟩,
        _, getElem?_placeArcs_appendArc.2 ⟨_, List.getElem?_eq_getElem inIndices, rfl⟩, ?_⟩
      · simp
      · simp
  · intro id entry found
    obtain ⟨before, old, rfl⟩ := getElem?_transitions_appendArc.1 found
    rw [arcs_grown]
    exact lists_appendArc (fun same => same) (consistent.transition_lists id before old)
  · intro id index found
    obtain ⟨before, old, rfl⟩ := getElem?_placeArcs_appendArc.1 found
    exact lists_appendArc (fun same => same) (consistent.place_lists id before old)
  · intro bus inBuses transition inBus
    rw [nameOf?_appendArc]
    exact consistent.bus_named bus inBuses transition inBus
  · have length : (net.appendArc arc).transitions.length = net.transitions.length :=
      List.length_modify _ _ _
    rw [length]
    exact consistent.buses_complete

end AppendArc

/-- **Adding an arc keeps a net consistent**, whatever is asked for. -/
theorem Consistent.addArc (consistent : net.Consistent) {place : PlaceId}
    {transition : TransitionId} {kind : ArcKind} {id : ArcId} {next : Net}
    (added : net.addArc place transition kind = .ok (id, next)) : next.Consistent := by
  obtain ⟨inPlaces, inTransitions, ⟨-, rfl⟩ | ⟨-, -, rfl⟩⟩ := addArc_eq_ok_iff.1 added
  · exact consistent
  · exact consistent.appendArc inTransitions inPlaces

end Net

end EventNet
