import EventNet.Proofs.Build.Holds
import EventNet.Proofs.Net.Accepted

/-!
# The instances of a net

In a net that has been built the index of a transition lists its arcs in ascending order, and
so as they follow one another in the table (`Net.WellBuilt.arcsOf_eq`). As the table has the
arcs in the order in which they were added, each instance has the arcs that are kept of its
clause, in the order of the clause (`Builder.Holds.instances_eq`).
-/

set_option autoImplicit false

namespace EventNet

namespace Net

/-- The transition instances of a net, each by its name and its arcs, which are described by
their kinds and the names of their places. -/
def instances (net : Net) : List (String × List (ArcKind × Option String)) :=
  net.transitions.zipIdx.map fun entry =>
    (entry.1.name, (net.arcsOf entry.2).map fun arc => (arc.kind, net.placeName? arc.place))

namespace WellBuilt

variable {net : Net} (wellBuilt : net.WellBuilt) (consistent : net.Consistent)
include wellBuilt consistent

/-- **The index of a transition lists the positions of its arcs** in ascending order. -/
theorem transition_index_eq {id : TransitionId} {entry : Transition}
    (found : net.transitions[id]? = some entry) :
    entry.arcs =
      (net.arcs.zipIdx.filter fun numbered => numbered.1.transition == id).map Prod.snd := by
  have listed := wellBuilt.transition_arcs_ascending entry (List.mem_of_getElem? found)
  have positions : (net.arcs.zipIdx.map Prod.snd).Pairwise (· < ·) := by
    rw [List.zipIdx_map_snd]
    exact List.pairwise_lt_range'
  have picked := positions.sublist ((List.filter_sublist
    (p := fun numbered => numbered.1.transition == id)).map Prod.snd)
  have distinct {ids : List Nat} (ascending : ids.Pairwise (· < ·)) : ids.Nodup :=
    ascending.imp Nat.ne_of_lt
  -- both lists ascend, so that it is enough that they have the same members
  refine ((List.perm_ext_iff_of_nodup (distinct listed) (distinct picked)).2 ?_).eq_of_pairwise
    (fun first second _ _ below above => absurd below (Nat.lt_asymm above)) listed picked
  intro arc
  rw [consistent.mem_transition_index found]
  simp only [List.mem_map, List.mem_filter, List.mem_zipIdx_iff_getElem?, beq_iff_eq,
    Prod.exists, exists_eq_right]

/-- **The arcs of a transition follow one another as they do in the table.** -/
theorem arcsOf_eq {id : TransitionId} {entry : Transition}
    (found : net.transitions[id]? = some entry) :
    net.arcsOf id = net.arcs.filter fun arc => arc.transition == id := by
  have read : ∀ numbered ∈ net.arcs.zipIdx.filter (fun numbered => numbered.1.transition == id),
      net.arcs[numbered.2]? = some numbered.1 := by
    intro numbered listed
    exact List.mem_zipIdx_iff_getElem?.1 (List.mem_of_mem_filter listed)
  rw [arcsOf, found]
  dsimp only
  rw [wellBuilt.transition_index_eq consistent found, List.filterMap_map,
    List.filterMap_congr (g := fun numbered => some numbered.1) read]
  calc (net.arcs.zipIdx.filter fun numbered => numbered.1.transition == id).filterMap
        (fun numbered => some numbered.1)
      = (net.arcs.zipIdx.filter ((fun arc => arc.transition == id) ∘ Prod.fst)).map Prod.fst :=
        congrFun List.filterMap_eq_map _
    _ = (net.arcs.zipIdx.map Prod.fst).filter fun arc => arc.transition == id :=
        List.filter_map.symm
    _ = net.arcs.filter fun arc => arc.transition == id := by rw [List.zipIdx_map_fst]

end WellBuilt

end Net

namespace Contents

/-- The arcs of one instance among those of all instances. -/
theorem filter_arcs (contents : Contents) (id : TransitionId) :
    (contents.arcs.filter fun entry => entry.1 == id).map Prod.snd =
      (contents.instances[id]?.map Prod.snd).getD [] := by
  obtain ⟨mentioned, facts, instances⟩ := contents
  induction instances using List.reverseRecOn with
  | nil => rfl
  | append_singleton instances last ih =>
    rw [arcs_concat, List.filter_append, List.map_append, ih, List.filter_map, List.map_map]
    simp only [Function.comp_def, List.map_id']
    by_cases new : instances.length = id
    · subst new
      simp
    · have older : (instances ++ [last])[id]? = instances[id]? := by
        grind
      simp [older, new]

end Contents

namespace Builder

variable {builder : Builder} {contents : Contents}

/-- **The instances of a net are those of the statements**, with the arcs that are kept of
each. -/
theorem Holds.instances_eq (holds : builder.Holds contents) :
    builder.net.instances = contents.instances.map fun entry =>
      (entry.1, entry.2.map fun arc => (arc.1, some arc.2)) := by
  refine List.ext_getElem? ?_
  intro id
  have named : (builder.net.transitions[id]?).map Transition.name =
      (contents.instances[id]?).map Prod.fst := by
    rw [← List.getElem?_map, holds.names_eq, List.getElem?_map]
  simp only [Net.instances, List.getElem?_map, List.getElem?_zipIdx, Nat.zero_add]
  cases made : builder.net.transitions[id]? with
  | none =>
    rw [made, Option.map_none, eq_comm, Option.map_eq_none_iff] at named
    rw [named]
    rfl
  | some transition =>
    rw [made, Option.map_some, eq_comm, Option.map_eq_some_iff] at named
    obtain ⟨⟨name, kept⟩, found, rfl⟩ := named
    have described : ((builder.net.arcs.map builder.net.described).filter fun entry =>
        entry.1 == id).map Prod.snd = kept.map fun arc => (arc.1, some arc.2) := by
      have own := contents.filter_arcs id
      simp only [found, Option.map_some, Option.getD_some] at own
      rw [holds.arcs_eq, List.filter_map, List.map_map, ← own, List.map_map]
      rfl
    rw [found]
    simp only [Option.map_some, ← described, List.filter_map, List.map_map,
      holds.sound.wellBuilt.arcsOf_eq holds.sound.consistent made]
    rfl

end Builder

end EventNet
