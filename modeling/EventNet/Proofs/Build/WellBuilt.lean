import EventNet.Proofs.Net.Growth

/-!
# Nets as they are built

A net that grows from nothing by new places, new transitions and new arcs is more than
consistent. Its tables hold nothing twice, its indices list what they list in ascending
order, and its buses are the transitions grouped by name, in the order in which the names
appeared first (`Net.WellBuilt`). A builder also keeps the arcs of one clause from
contradicting each other.

Every way of growing preserves this, under the condition that the builder sees to: a new
place has a new name, and a new arc is neither there already nor in contradiction with an
arc between the same nodes.
-/

set_option autoImplicit false

namespace EventNet.Net

/-- The name of a place, if there is such a place. -/
def placeName? (net : Net) (place : PlaceId) : Option String := net.places[place]?.map Place.name

theorem lt_of_placeName? {net : Net} {place : PlaceId} {name : String}
    (named : net.placeName? place = some name) : place < net.places.length := by
  obtain ⟨entry, found, _⟩ := Option.map_eq_some_iff.1 named
  exact (List.getElem?_eq_some_iff.1 found).1

/-- What holds of a net that has been built, beside its consistency. -/
structure WellBuilt (net : Net) : Prop where
  /-- No two places have one name. -/
  place_names_nodup : (net.places.map Place.name).Nodup
  /-- No two arcs are of one kind between one place and one transition. -/
  arcs_nodup : net.arcs.Nodup
  transition_arcs_ascending : ∀ entry ∈ net.transitions, entry.arcs.Pairwise (· < ·)
  place_arcs_ascending : ∀ index ∈ net.placeArcs, index.Pairwise (· < ·)
  /-- The labels of the buses are the names of the transitions, in the order of their first
  appearance. -/
  labels_eq : net.labels = (net.transitions.map Transition.name).eraseDups
  bus_ascending : ∀ bus ∈ net.buses.entries, bus.2.Pairwise (· < ·)
  /-- Of the kinds of arcs that produce nothing, a transition has one on a place at most. -/
  kinds_agree : ∀ (first second : ArcKind) (transition : TransitionId) (place : PlaceId),
    net.HasArc first transition place → net.HasArc second transition place →
      first ≠ .produce → second ≠ .produce → first = second

/-- **A bus lists the transitions of its name**, each of them once, in whatever order. -/
theorem Consistent.bus_perm {net : Net} (consistent : net.Consistent)
    {bus : String × List TransitionId} (listed : bus ∈ net.buses.entries) :
    bus.2.Perm ((List.range net.transitions.length).filter fun transition =>
      net.nameOf? transition == some bus.1) := by
  have distinct : bus.2.Nodup :=
    (List.nodup_flatMap.1 (consistent.buses_complete.nodup_iff.2 List.nodup_range)).1 bus listed
  refine (List.perm_ext_iff_of_nodup distinct (List.nodup_range.filter _)).2 ?_
  intro transition
  rw [List.mem_filter, List.mem_range, beq_iff_eq]
  constructor
  · intro member
    have named := consistent.bus_named bus listed transition member
    exact ⟨lt_of_nameOf? named, named⟩
  · rintro ⟨-, named⟩
    -- the bus that lists the transition carries the same label, and so is this one
    obtain ⟨other, otherListed, same, inOther⟩ := consistent.exists_bus named
    exact List.inj_on_of_nodup_map net.buses.nodup otherListed listed same ▸ inOther

namespace WellBuilt

variable {net : Net}

theorem empty : Net.empty.WellBuilt where
  place_names_nodup := List.nodup_nil
  arcs_nodup := List.nodup_nil
  transition_arcs_ascending := by simp [Net.empty]
  place_arcs_ascending := by simp [Net.empty]
  labels_eq := rfl
  bus_ascending := by simp [Net.empty, LabelMap.empty]
  kinds_agree := by simp [Net.empty, HasArc]

/-- **A bus is what its name picks out among the transitions**, in ascending order. -/
theorem bus_eq (wellBuilt : net.WellBuilt) (consistent : net.Consistent)
    {bus : String × List TransitionId} (listed : bus ∈ net.buses.entries) :
    bus.2 = (List.range net.transitions.length).filter fun transition =>
      net.nameOf? transition == some bus.1 := by
  have ascending := wellBuilt.bus_ascending bus listed
  have grouped : ((List.range net.transitions.length).filter fun transition =>
      net.nameOf? transition == some bus.1).Pairwise (· < ·) :=
    List.pairwise_lt_range.filter _
  exact (consistent.bus_perm listed).eq_of_pairwise
    (fun first second _ _ below above => absurd below (Nat.lt_asymm above)) ascending grouped

/-! ## Growth -/

theorem withPlaces (wellBuilt : net.WellBuilt) {places : List Place}
    (nodup : (places.map Place.name).Nodup) : { net with places }.WellBuilt :=
  ⟨nodup, wellBuilt.arcs_nodup, wellBuilt.transition_arcs_ascending,
    wellBuilt.place_arcs_ascending, wellBuilt.labels_eq, wellBuilt.bus_ascending,
    wellBuilt.kinds_agree⟩

theorem addPlace (wellBuilt : net.WellBuilt) {place : Place}
    (fresh : place.name ∉ net.places.map Place.name) : (net.addPlace place).2.WellBuilt := by
  refine ⟨?_, wellBuilt.arcs_nodup, wellBuilt.transition_arcs_ascending, ?_,
    wellBuilt.labels_eq, wellBuilt.bus_ascending, wellBuilt.kinds_agree⟩
  · simp only [Net.addPlace, List.map_append, List.map_cons, List.map_nil]
    exact List.nodup_append.2 ⟨wellBuilt.place_names_nodup, List.nodup_singleton _,
      fun name old _ new => by
        rw [List.mem_singleton.1 new]
        exact fun same => fresh (same ▸ old)⟩
  · intro index listed
    rcases List.mem_append.1 listed with old | new
    · exact wellBuilt.place_arcs_ascending index old
    · rw [List.mem_singleton.1 new]
      exact List.Pairwise.nil

/-- An ascending list stays so with a last entry above all others. -/
theorem pairwise_concat {ids : List Nat} {last : Nat} (ascending : ids.Pairwise (· < ·))
    (below : ∀ id ∈ ids, id < last) : (ids ++ [last]).Pairwise (· < ·) :=
  List.pairwise_append.2 ⟨ascending, List.pairwise_singleton _ _,
    fun id listed _ single => List.mem_singleton.1 single ▸ below id listed⟩

/-- A further name is a new one or changes nothing. -/
theorem eraseDups_concat {names : List String} {name : String} :
    (names ++ [name]).eraseDups =
      if name ∈ names then names.eraseDups else names.eraseDups ++ [name] := by
  rw [List.eraseDups_append, List.removeAll]
  by_cases known : name ∈ names
  · simp [known]
  · simp [known, List.eraseDups_cons]

theorem addTransition (wellBuilt : net.WellBuilt) (consistent : net.Consistent) (name : String) :
    (net.addTransition name).2.WellBuilt := by
  refine ⟨wellBuilt.place_names_nodup, wellBuilt.arcs_nodup, ?_, wellBuilt.place_arcs_ascending,
    ?_, ?_, wellBuilt.kinds_agree⟩
  · intro entry listed
    rcases List.mem_append.1 listed with old | new
    · exact wellBuilt.transition_arcs_ascending entry old
    · rw [List.mem_singleton.1 new]
      exact List.Pairwise.nil
  · have labels : net.buses.entries.map Prod.fst = _ := wellBuilt.labels_eq
    have keys := LabelMap.keys_upsertEntries name
      (fun members : Option (List TransitionId) => members.getD [] ++ [net.transitions.length])
      net.buses.entries
    rw [labels] at keys
    simp only [Net.addTransition, List.map_append, List.map_cons, List.map_nil, eraseDups_concat]
    simp only [List.mem_eraseDups] at keys
    exact keys
  · intro bus joined
    rcases LabelMap.mem_joinEntries joined with old | ⟨label, members, before, extended⟩
    · exact wellBuilt.bus_ascending bus old
    · rw [extended]
      rcases before with rfl | listed
      · exact List.pairwise_singleton _ _
      · exact pairwise_concat (wellBuilt.bus_ascending _ listed) fun transition member =>
          lt_of_nameOf? (consistent.bus_named _ listed transition member)

/-- The position of the new arc lies above all that are listed. -/
theorem ascending_appendArc {arcs : List Arc} {index : List ArcId} {joins : Prop}
    [Decidable joins] {belongs : Arc → Prop} (ascending : index.Pairwise (· < ·))
    (lists : ∀ listed ∈ index, ∃ arc : Arc, arcs[listed]? = some arc ∧ belongs arc) :
    (if joins then index ++ [arcs.length] else index).Pairwise (· < ·) := by
  split
  · refine pairwise_concat ascending fun listed inIndex => ?_
    obtain ⟨arc, found, -⟩ := lists listed inIndex
    exact (List.getElem?_eq_some_iff.1 found).1
  · exact ascending

theorem appendArc (wellBuilt : net.WellBuilt) (consistent : net.Consistent) {arc : Arc}
    (fresh : arc ∉ net.arcs)
    (agrees : ∀ kind, net.HasArc kind arc.transition arc.place →
      kind ≠ .produce → arc.kind ≠ .produce → kind = arc.kind) :
    (net.appendArc arc).WellBuilt := by
  refine ⟨wellBuilt.place_names_nodup, ?_, ?_, ?_, ?_, wellBuilt.bus_ascending, ?_⟩
  · exact List.nodup_append.2 ⟨wellBuilt.arcs_nodup, List.nodup_singleton _,
      fun old listed _ new => by
        rw [List.mem_singleton.1 new]
        exact fun same => fresh (same ▸ listed)⟩
  · intro entry listed
    obtain ⟨id, found⟩ := List.getElem?_of_mem listed
    obtain ⟨before, old, rfl⟩ := getElem?_transitions_appendArc.1 found
    rw [arcs_grown]
    exact ascending_appendArc
      (wellBuilt.transition_arcs_ascending before (List.mem_of_getElem? old))
      (consistent.transition_lists id before old)
  · intro index listed
    obtain ⟨id, found⟩ := List.getElem?_of_mem listed
    obtain ⟨before, old, rfl⟩ := getElem?_placeArcs_appendArc.1 found
    exact ascending_appendArc (wellBuilt.place_arcs_ascending before (List.mem_of_getElem? old))
      (consistent.place_lists id before old)
  · rw [names_appendArc]
    exact wellBuilt.labels_eq
  · intro first second transition place firstArc secondArc firstTakes secondTakes
    rcases List.mem_append.1 firstArc with firstOld | firstNew <;>
      rcases List.mem_append.1 secondArc with secondOld | secondNew
    · exact wellBuilt.kinds_agree first second transition place firstOld secondOld firstTakes
        secondTakes
    · obtain rfl := List.mem_singleton.1 secondNew
      exact agrees first firstOld firstTakes secondTakes
    · obtain rfl := List.mem_singleton.1 firstNew
      exact (agrees second secondOld secondTakes firstTakes).symm
    · rw [← List.mem_singleton.1 firstNew] at secondNew
      exact (congrArg Arc.kind (List.mem_singleton.1 secondNew)).symm

end WellBuilt

end EventNet.Net
