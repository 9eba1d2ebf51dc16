import EventNet.Marking
import EventNet.Proofs.Build.WellBuilt
import Mathlib.Data.List.Induction

/-!
# Markings by name

A snapshot shows a marking by name. It has an entry for every name of a place
(`Marking.keys_snapshot`), but of places with one name it keeps one. Where the places have
distinct names nothing is lost: the snapshot has one entry for every place, in their order
(`Marking.entries_snapshot`), and what it says of a name is what the marking says of the
place (`Marking.find?_snapshot`).
-/

set_option autoImplicit false

namespace EventNet

theorem LabelMap.ofList_concat {β : Type} (pairs : List (String × β)) (last : String × β) :
    LabelMap.ofList (pairs ++ [last]) = (LabelMap.ofList pairs).insert last.1 last.2 :=
  List.foldl_concat _ _ _ _

/-- The labels of the pairs become keys, in the order of first appearance. -/
theorem LabelMap.keys_ofList {β : Type} (pairs : List (String × β)) :
    (LabelMap.ofList pairs).keys = (pairs.map Prod.fst).eraseDups := by
  induction pairs using List.reverseRecOn with
  | nil => rfl
  | append_singleton pairs last ih =>
    have keys : (LabelMap.ofList pairs).entries.map Prod.fst = _ := ih
    rw [ofList_concat, List.map_append, List.map_singleton, Net.WellBuilt.eraseDups_concat]
    refine (keys_upsertEntries _ _ _).trans ?_
    simp only [keys, List.mem_eraseDups]

/-- Pairs with distinct labels become the entries as they stand. -/
theorem LabelMap.entries_ofList {β : Type} {pairs : List (String × β)}
    (distinct : (pairs.map Prod.fst).Nodup) : (LabelMap.ofList pairs).entries = pairs := by
  induction pairs using List.reverseRecOn with
  | nil => rfl
  | append_singleton pairs last ih =>
    rw [List.map_append, List.map_singleton, List.nodup_append] at distinct
    obtain ⟨before, -, apart⟩ := distinct
    have fresh : last.1 ∉ (LabelMap.ofList pairs).entries.map Prod.fst := by
      rw [ih before]
      intro known
      exact apart last.1 known last.1 (List.mem_singleton_self _) rfl
    rw [ofList_concat]
    exact (upsertEntries_of_fresh _ fresh).trans (congrArg (· ++ [last]) (ih before))

namespace Net

variable {net : Net}

theorem placeName?_of_mem {place : Place} (listed : place ∈ net.places) :
    ∃ id, net.placeName? id = some place.name := by
  obtain ⟨id, found⟩ := List.getElem?_of_mem listed
  exact ⟨id, congrArg (Option.map Place.name) found⟩

theorem mem_names_of_placeName? {place : PlaceId} {name : String}
    (named : net.placeName? place = some name) : name ∈ net.places.map Place.name := by
  rw [placeName?, ← List.getElem?_map] at named
  exact List.mem_of_getElem? named

/-- Where the places have distinct names, a name belongs to one place. -/
theorem place_eq_of_placeName? (distinct : (net.places.map Place.name).Nodup) {name : String}
    {first second : PlaceId} (named : net.placeName? first = some name)
    (namedOther : net.placeName? second = some name) : first = second := by
  rw [placeName?, ← List.getElem?_map] at named namedOther
  obtain ⟨inside, -⟩ := List.getElem?_eq_some_iff.1 named
  exact (List.getElem?_inj inside distinct).1 (named.trans namedOther.symm)

end Net

namespace Marking

/-- What goes into a snapshot is labelled with the names of the places. -/
theorem map_fst_pairs (net : Net) (marking : Marking) :
    (net.places.zipIdx.map fun (place, id) => (place.name, marking.isMarked id)).map Prod.fst =
      net.places.map Place.name :=
  calc (net.places.zipIdx.map fun (place, id) => (place.name, marking.isMarked id)).map Prod.fst
    _ = net.places.zipIdx.map (Place.name ∘ Prod.fst) := List.map_map
    _ = (net.places.zipIdx.map Prod.fst).map Place.name := List.map_map.symm
    _ = net.places.map Place.name := by rw [List.zipIdx_map_fst]

/-- **A snapshot has an entry for every name**, where the name appears first. -/
theorem keys_snapshot (net : Net) (marking : Marking) :
    (marking.snapshot net).keys = (net.places.map Place.name).eraseDups := by
  rw [snapshot, LabelMap.keys_ofList, map_fst_pairs]

/-- A snapshot says nothing of a name that no place has. -/
theorem find?_snapshot_eq_none {net : Net} (marking : Marking) {name : String}
    (unknown : name ∉ net.places.map Place.name) : (marking.snapshot net).find? name = none := by
  rw [LabelMap.find?_eq_none_iff, keys_snapshot, List.mem_eraseDups]
  exact unknown

variable {net : Net} (distinct : (net.places.map Place.name).Nodup) (marking : Marking)
include distinct

/-- **A snapshot has one entry for every place**, with its name and its value. -/
theorem entries_snapshot : (marking.snapshot net).entries =
    net.places.zipIdx.map fun (place, id) => (place.name, marking.isMarked id) := by
  refine LabelMap.entries_ofList ?_
  rw [map_fst_pairs]
  exact distinct

/-- **A snapshot says of a name what the marking says of the place.** -/
theorem find?_snapshot {place : PlaceId} {name : String}
    (named : net.placeName? place = some name) :
    (marking.snapshot net).find? name = some (marking.isMarked place) := by
  obtain ⟨entry, found, rfl⟩ := Option.map_eq_some_iff.1 named
  refine LabelMap.find?_of_mem ?_
  rw [marking.entries_snapshot distinct]
  exact List.mem_map.2 ⟨(entry, place), List.mem_zipIdx_iff_getElem?.2 found, rfl⟩

end Marking

end EventNet
