import EventNet.Proofs.Firing.Effect
import EventNet.Proofs.Net.Snapshot

/-!
# Markings told apart by their texts

The text of a marking lists the names of its marked places. It can be read back as long as no
name is empty and none holds a comma: the first name then ends at the first comma, and a text
without names differs from one with names (`braced_injective`).

The text of a snapshot and that of the marking itself list the same names, if no two places
share one (`Marking.text_snapshot`). So where the names of a net are distinct and can be
listed, markings with the same text are the same (`Marking.text_snapshot_eq_iff`).
-/

set_option autoImplicit false

namespace EventNet

/-! ## Names in a list -/

/-- The name can be told from what stands around it in a list of names. -/
structure IsListable (name : String) : Prop where
  nonempty : name ≠ ""
  no_comma : ',' ∉ name.toList

section Names

variable {name : List Char} {names : List (List Char)}

/-- What stands between two names. -/
def separator : List Char := [',', ' ']

/-- A name ends at the first comma. -/
theorem takeWhile_append_flatMap (free : ',' ∉ name) (names : List (List Char)) :
    (name ++ names.flatMap (separator ++ ·)).takeWhile (· != ',') = name := by
  have passed : ∀ c ∈ name, (c != ',') = true := by
    intro c inName
    exact bne_iff_ne.2 fun same => free (same ▸ inName)
  rw [List.takeWhile_append_of_pos passed]
  cases names with
  | nil => exact List.append_nil name
  | cons next names => exact List.append_nil name

/-- Names without commas are read off their list, if each has a separator in front. -/
theorem flatMap_separator_injective {first second : List (List Char)}
    (free : ∀ name ∈ first, ',' ∉ name) (freeOther : ∀ name ∈ second, ',' ∉ name)
    (same : first.flatMap (separator ++ ·) = second.flatMap (separator ++ ·)) :
    first = second := by
  induction first generalizing second with
  | nil =>
    cases second with
    | nil => rfl
    | cons name second => cases same
  | cons name first ih =>
    cases second with
    | nil => cases same
    | cons other second =>
      obtain ⟨here, others⟩ := List.forall_mem_cons.1 free
      obtain ⟨there, more⟩ := List.forall_mem_cons.1 freeOther
      rw [List.flatMap_cons, List.flatMap_cons, List.append_assoc, List.append_assoc] at same
      have behind := List.append_cancel_left same
      obtain rfl : name = other := by
        rw [← takeWhile_append_flatMap here first, behind, takeWhile_append_flatMap there]
      rw [ih others more (List.append_cancel_left behind)]

theorem separator_append_intercalate (nonempty : names ≠ []) :
    separator ++ separator.intercalate names = names.flatMap (separator ++ ·) := by
  induction names with
  | nil => exact absurd rfl nonempty
  | cons name names ih =>
    cases names with
    | nil => rw [List.intercalate_singleton, List.flatMap_singleton]
    | cons next names =>
      rw [List.flatMap_cons, List.intercalate_cons_cons, List.append_assoc name,
        ih (List.cons_ne_nil _ _), List.append_assoc]

/-- Names that are not empty and have no commas are read off their list. -/
theorem intercalate_injective {first second : List (List Char)}
    (listable : ∀ name ∈ first, name ≠ [] ∧ ',' ∉ name)
    (listableOther : ∀ name ∈ second, name ≠ [] ∧ ',' ∉ name)
    (same : separator.intercalate first = separator.intercalate second) : first = second := by
  have inked {names : List (List Char)} (each : ∀ name ∈ names, name ≠ [] ∧ ',' ∉ name)
      (empty : separator.intercalate names = []) : names = [] := by
    by_contra nonempty
    obtain ⟨name, rest, rfl⟩ := List.exists_cons_of_ne_nil nonempty
    have behind := separator_append_intercalate nonempty
    rw [empty, List.flatMap_cons, List.append_assoc] at behind
    have none := List.append_cancel_left behind
    exact (each name List.mem_cons_self).1 (List.append_eq_nil_iff.1 none.symm).1
  by_cases firstEmpty : first = []
  · subst firstEmpty
    exact (inked listableOther same.symm).symm
  · by_cases secondEmpty : second = []
    · subst secondEmpty
      exact inked listable same
    · refine flatMap_separator_injective (fun name listed => (listable name listed).2)
        (fun name listed => (listableOther name listed).2) ?_
      rw [← separator_append_intercalate firstEmpty, same, separator_append_intercalate secondEmpty]

end Names

/-- **Names that can be listed are read off their text in braces.** -/
theorem braced_injective {first second : List String} (listable : ∀ name ∈ first, IsListable name)
    (listableOther : ∀ name ∈ second, IsListable name) (same : braced first = braced second) :
    first = second := by
  have spelled {names : List String} (each : ∀ name ∈ names, IsListable name) :
      ∀ name ∈ names.map String.toList, name ≠ [] ∧ ',' ∉ name := by
    refine List.forall_mem_map.2 fun name listed => ⟨?_, (each name listed).no_comma⟩
    exact fun empty => (each name listed).nonempty (String.toList_eq_nil_iff.1 empty)
  have inside : ", ".intercalate first = ", ".intercalate second := by
    rwa [braced, braced, String.append_left_inj, String.append_right_inj] at same
  rw [← String.toList_inj, String.toList_intercalate, String.toList_intercalate] at inside
  have names := intercalate_injective (spelled listable) (spelled listableOther) inside
  exact (List.map_inj_right fun _ _ => String.toList_inj.1).1 names

/-! ## Marked names -/

namespace Marking

/-- The names of the marked places, in the order of the places. -/
def markedNames (net : Net) (marking : Marking) : List String :=
  (net.places.zipIdx.filter fun (_, id) => marking.isMarked id).map fun (place, _) => place.name

variable {net : Net} (marking : Marking)

theorem mem_names_of_mem_markedNames {marking : Marking} {name : String}
    (listed : name ∈ marking.markedNames net) : name ∈ net.places.map Place.name := by
  obtain ⟨⟨place, id⟩, marked, rfl⟩ := List.mem_map.1 listed
  exact List.mem_map_of_mem (List.fst_mem_of_mem_zipIdx (List.mem_filter.1 marked).1)

/-- The marked places are those that an enumeration of all places picks out. -/
theorem markedPlaces_eq :
    marking.markedPlaces = (List.range marking.marks.length).filter marking.isMarked := by
  have value : ∀ entry ∈ marking.marks.zipIdx, entry.1 = (marking.isMarked ∘ Prod.snd) entry := by
    intro entry listed
    simp only [Function.comp_apply, isMarked, List.mem_zipIdx_iff_getElem?.1 listed,
      Option.getD_some]
  rw [markedPlaces, List.filter_congr value, ← List.filter_map, List.zipIdx_map_snd,
    List.range_eq_range']

/-- The text of a marking lists the names of the marked places. -/
theorem text_eq (sized : marking.marks.length = net.places.length) :
    marking.text net = braced (marking.markedNames net) := by
  have name : ∀ entry ∈ net.places.zipIdx,
      ((fun id => (net.places[id]?.map Place.name).getD "") ∘ Prod.snd) entry = entry.1.name := by
    intro entry listed
    simp only [Function.comp_apply, List.mem_zipIdx_iff_getElem?.1 listed, Option.map_some,
      Option.getD_some]
  rw [text, markedPlaces_eq, sized, List.range_eq_range', ← List.zipIdx_map_snd 0 net.places,
    List.filter_map, List.map_map]
  refine congrArg braced (List.map_congr_left ?_)
  intro entry listed
  exact name entry (List.mem_filter.1 listed).1

section Distinct

variable (distinct : (net.places.map Place.name).Nodup)
include distinct

/-- The text of a snapshot lists the same names, if no two places share one. -/
theorem text_snapshot_eq : (marking.snapshot net).text = braced (marking.markedNames net) := by
  rw [Snapshot.text, entries_snapshot distinct, List.filter_map, List.map_map]
  rfl

/-- **A snapshot is shown like its marking.** -/
theorem text_snapshot (sized : marking.marks.length = net.places.length) :
    (marking.snapshot net).text = marking.text net := by
  rw [marking.text_snapshot_eq distinct, marking.text_eq sized]

/-- A place is marked if its name is among those of the marked places. -/
theorem mem_markedNames_iff {marking : Marking} {place : PlaceId} {name : String}
    (named : net.placeName? place = some name) :
    name ∈ marking.markedNames net ↔ marking.isMarked place = true := by
  constructor
  · intro listed
    obtain ⟨⟨other, id⟩, marked, rfl⟩ := List.mem_map.1 listed
    obtain ⟨inPlaces, marked⟩ := List.mem_filter.1 marked
    have namedOther : net.placeName? id = some other.name :=
      congrArg (Option.map Place.name) (List.mem_zipIdx_iff_getElem?.1 inPlaces)
    rwa [Net.place_eq_of_placeName? distinct named namedOther]
  · intro marked
    obtain ⟨entry, found, rfl⟩ := Option.map_eq_some_iff.1 named
    exact List.mem_map.2 ⟨(entry, place),
      List.mem_filter.2 ⟨List.mem_zipIdx_iff_getElem?.2 found, marked⟩, rfl⟩

/-- **Markings are told apart by the texts of their snapshots**, if the names of the places are
distinct and can be listed. -/
theorem text_snapshot_eq_iff (listable : ∀ place ∈ net.places, IsListable place.name)
    {first second : Marking} (sized : first.marks.length = net.places.length)
    (sizedOther : second.marks.length = net.places.length) :
    (first.snapshot net).text = (second.snapshot net).text ↔ first = second := by
  refine ⟨fun same => ?_, congrArg fun marking : Marking => (marking.snapshot net).text⟩
  have each (marking : Marking) : ∀ name ∈ marking.markedNames net, IsListable name := by
    intro name listed
    exact List.forall_mem_map.2 listable name (mem_names_of_mem_markedNames listed)
  rw [first.text_snapshot_eq distinct, second.text_snapshot_eq distinct] at same
  have names := braced_injective (each first) (each second) same
  refine eq_of_isMarked (sized.trans sizedOther.symm) ?_
  intro place
  by_cases inside : place < net.places.length
  · have named : net.placeName? place = some net.places[place].name :=
      congrArg (Option.map Place.name) (List.getElem?_eq_getElem inside)
    rw [← mem_markedNames_iff distinct named, names, mem_markedNames_iff distinct named]
  · have unmarked {marking : Marking} (sized : marking.marks.length = net.places.length) :
        ¬marking.isMarked place = true := by
      intro marked
      exact inside (sized ▸ lt_of_isMarked marked)
    exact iff_of_false (unmarked sized) (unmarked sizedOther)

end Distinct

end Marking

end EventNet
