/-!
# Maps from labels that remember the order of first appearance

Buses, marking snapshots and per-label statistics are maps from labels, and every
one of them is written in the order in which its labels first appeared. A label map
is the list of its entries, with no label twice: giving a new value to a label that
is present keeps the label's place.
-/

set_option autoImplicit false

namespace EventNet

universe u

variable {β γ : Type u}

/-- Values by label, in the order in which the labels first appeared. -/
structure LabelMap (β : Type u) where
  /-- The entries in order. -/
  entries : List (String × β)
  /-- No label has two entries. -/
  nodup : (entries.map Prod.fst).Nodup

namespace LabelMap

@[ext] theorem ext {first second : LabelMap β} (same : first.entries = second.entries) :
    first = second := by
  cases first; cases second; cases same; rfl

instance [DecidableEq β] : DecidableEq (LabelMap β) := fun first second =>
  decidable_of_iff (first.entries = second.entries) ⟨ext, fun same => same ▸ rfl⟩

/-- The map without entries. -/
def empty : LabelMap β := ⟨[], List.nodup_nil⟩

instance : Inhabited (LabelMap β) := ⟨empty⟩

/-- The labels in order. -/
def keys (map : LabelMap β) : List String := map.entries.map Prod.fst

/-- The number of entries. -/
def size (map : LabelMap β) : Nat := map.entries.length

/-- The value of a label. -/
def find? (map : LabelMap β) (label : String) : Option β := map.entries.lookup label

theorem mem_of_find? {map : LabelMap β} {label : String} {value : β}
    (found : map.find? label = some value) : (label, value) ∈ map.entries := by
  obtain ⟨before, after, whole, _⟩ := List.lookup_eq_some_iff.1 found
  simp [whole]

/-- A label has one value, so the value of an entry is that of its label. -/
theorem find?_of_mem {map : LabelMap β} {label : String} {value : β}
    (listed : (label, value) ∈ map.entries) : map.find? label = some value := by
  obtain ⟨before, after, whole⟩ := List.append_of_mem listed
  have nodup := map.nodup
  rw [whole, List.map_append, List.map_cons, List.nodup_append] at nodup
  refine List.lookup_eq_some_iff.2 ⟨before, after, whole, fun entry earlier => bne_iff_ne.2 ?_⟩
  exact fun same => nodup.2.2 _ (List.mem_map.2 ⟨entry, earlier, rfl⟩) label List.mem_cons_self
    same.symm

theorem find?_eq_none_iff {map : LabelMap β} {label : String} :
    map.find? label = none ↔ label ∉ map.keys := by
  simp only [find?, keys, List.lookup_eq_none_iff, List.mem_map, not_exists, not_and, bne_iff_ne,
    ne_eq]
  exact ⟨fun all entry listed same => all entry listed same.symm,
    fun none entry listed same => none entry listed same.symm⟩

/-- The entries with the value of `label` replaced by what `change` makes of it, in its
place, or with a new last entry made from no value. -/
def upsertEntries (label : String) (change : Option β → β) :
    List (String × β) → List (String × β)
  | [] => [(label, change none)]
  | (key, value) :: rest =>
    if key = label then (key, change (some value)) :: rest
    else (key, value) :: upsertEntries label change rest

theorem keys_upsertEntries (label : String) (change : Option β → β)
    (entries : List (String × β)) :
    (upsertEntries label change entries).map Prod.fst =
      if label ∈ entries.map Prod.fst then entries.map Prod.fst
      else entries.map Prod.fst ++ [label] := by
  induction entries with
  | nil => simp [upsertEntries]
  | cons entry rest ih =>
    obtain ⟨key, value⟩ := entry
    by_cases here : key = label
    · simp [upsertEntries, here]
    · have elsewhere : ¬label = key := fun same => here same.symm
      simp only [upsertEntries, if_neg here, List.map_cons, ih, List.mem_cons, elsewhere, false_or]
      split <;> simp

theorem lookup_cons_eq_ite (label : String) (value : β) (entries : List (String × β))
    (key : String) :
    ((label, value) :: entries).lookup key =
      if key = label then some value else entries.lookup key := by
  by_cases same : key = label
  · rw [same, List.lookup_cons_self, if_pos rfl]
  · rw [List.lookup_cons, beq_eq_false_iff_ne.2 same, if_neg same]

theorem lookup_upsertEntries (label : String) (change : Option β → β) (key : String)
    (entries : List (String × β)) :
    (upsertEntries label change entries).lookup key =
      if key = label then some (change (entries.lookup label)) else entries.lookup key := by
  induction entries with
  | nil => rw [upsertEntries, lookup_cons_eq_ite]; rfl
  | cons entry rest ih =>
    obtain ⟨first, value⟩ := entry
    by_cases here : first = label
    · subst here
      by_cases same : key = first <;> simp [upsertEntries, lookup_cons_eq_ite, same]
    · have elsewhere : ¬label = first := fun same => here same.symm
      by_cases same : key = first
      · simp [upsertEntries, here, same]
      · simp [upsertEntries, lookup_cons_eq_ite, here, elsewhere, same, ih]

/-- A label that is not there yet gets the last entry. -/
theorem upsertEntries_of_fresh {label : String} (change : Option β → β)
    {entries : List (String × β)} (fresh : label ∉ entries.map Prod.fst) :
    upsertEntries label change entries = entries ++ [(label, change none)] := by
  induction entries with
  | nil => rfl
  | cons entry rest ih =>
    obtain ⟨key, value⟩ := entry
    rw [List.map_cons, List.mem_cons, not_or] at fresh
    have elsewhere : ¬key = label := fun same => fresh.1 same.symm
    rw [upsertEntries, if_neg elsewhere, ih fresh.2, List.cons_append]

/-- The map in which `change` has been applied to the value of `label`. -/
def upsert (map : LabelMap β) (label : String) (change : Option β → β) : LabelMap β where
  entries := upsertEntries label change map.entries
  nodup := by
    rw [keys_upsertEntries]
    split
    · exact map.nodup
    · rename_i fresh
      refine List.nodup_append.2 ⟨map.nodup, by simp, ?_⟩
      intro key present other single same
      rw [List.mem_singleton] at single
      exact fresh (single ▸ same ▸ present)

/-- The value of one label is changed, and those of the others stay. -/
theorem find?_upsert (map : LabelMap β) (label : String) (change : Option β → β) (key : String) :
    (map.upsert label change).find? key =
      if key = label then some (change (map.find? label)) else map.find? key :=
  lookup_upsertEntries label change key map.entries

/-- The map with the given value for `label`. -/
def insert (map : LabelMap β) (label : String) (value : β) : LabelMap β :=
  map.upsert label fun _ => value

/-- The map without `label`; the other entries keep their order. -/
def erase (map : LabelMap β) (label : String) : LabelMap β where
  entries := map.entries.filter fun entry => entry.1 != label
  nodup := map.nodup.sublist (List.filter_sublist.map Prod.fst)

/-- The map that arises when the pairs are inserted one after another. -/
def ofList (pairs : List (String × β)) : LabelMap β :=
  pairs.foldl (fun map pair => map.insert pair.1 pair.2) empty

/-- The map with the same labels and a value made from each of them. -/
def mapLabels (map : LabelMap β) (make : String → γ) : LabelMap γ where
  entries := map.entries.map fun entry => (entry.1, make entry.1)
  nodup := by
    simpa [List.map_map, Function.comp_def] using map.nodup

theorem keys_mapLabels (map : LabelMap β) (make : String → γ) :
    (map.mapLabels make).keys = map.keys := by
  simp [keys, mapLabels]

theorem find?_mapLabels {map : LabelMap β} {label : String} (listed : label ∈ map.keys)
    (make : String → γ) : (map.mapLabels make).find? label = some (make label) := by
  obtain ⟨entry, inMap, rfl⟩ := List.mem_map.1 listed
  exact find?_of_mem (List.mem_map.2 ⟨entry, inMap, rfl⟩)

end LabelMap

end EventNet
