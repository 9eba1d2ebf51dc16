import EventNet.Net.Ron
import EventNet.Proofs.Fields
import EventNet.Proofs.Net.Snapshot
import EventNet.Proofs.Ron.Document

/-!
# Values that survive a RON document

A decoder recovers a value from a RON value if this can be written and read again, and the
decoder then gives the value (`Decoder.Recovers`). The fact is proved here for texts, truth
values, identifiers and kinds of arcs, and carried along to lists, maps from labels and records,
in the same way in which decoders are put together. No extensions are enabled, so that
identifiers have their parentheses and names may be left out.
-/

set_option autoImplicit false

namespace EventNet.Ron

variable {α β : Type}

/-- A decoder gives this value back when the document has been written and read. -/
structure Decoder.Recovers (decode : Decoder α) (room : Nat) (document : Ron) (value : α) :
    Prop where
  plain : Plain room document
  decoded : decode document = .ok value

namespace Decoder

theorem recovers_string (room : Nat) (text : String) :
    Decoder.string.Recovers room (.string text) text where
  plain := .string room text
  decoded := rfl

theorem recovers_bool (room : Nat) (value : Bool) :
    Decoder.bool.Recovers room (Ron.bool value) value where
  plain := by cases value <;> exact .word (by decide +kernel) (by decide)
  decoded := by cases value <;> rfl

theorem recovers_arcKind (room : Nat) (kind : ArcKind) :
    Decoder.arcKind.Recovers room (Ron.plain kind.name) kind where
  plain := by cases kind <;> exact .word (by decide +kernel) (by decide)
  decoded := by cases kind <;> rfl

/-- The digits of a number denote it. -/
theorem natOf?_toString (number : Nat) : natOf? (toString number) = some number := by
  rw [natOf?, Nat.toString_eq_repr, Nat.toList_repr, ofChars?_toDigits]
  rfl

theorem bareId_toString {number : Nat} (fits : number ≤ maxId) :
    Decoder.bareId (.number (toString number)) = .ok number := by
  rw [Decoder.bareId, natOf?_toString]
  exact if_pos fits

theorem recovers_id (room : Nat) (typeName : String) {number : Nat} (fits : number ≤ maxId) :
    (Decoder.id [] typeName).Recovers (room + 2) (Ron.id number) number where
  plain := .id room (Nat.lt_of_le_of_lt fits (by decide))
  decoded := by
    have wrapped : Decoder.id [] typeName = Decoder.wrappedId [] typeName := rfl
    have anonymous : nameFits [] typeName none = true := rfl
    rw [wrapped, Ron.id, Decoder.wrappedId, if_pos anonymous, bareId_toString fits]

/-! ## Lists and maps -/

theorem recovers_list {room : Nat} {decode : Decoder α} {encode : α → Ron} {values : List α}
    (each : ∀ value ∈ values, decode.Recovers room (encode value) value) :
    decode.list.Recovers (room + 2) (listOf encode values) values where
  plain := by
    refine .list ?_
    intro item listed
    obtain ⟨value, present, rfl⟩ := List.mem_map.1 listed
    exact (each value present).plain
  decoded := by
    show (values.map encode).mapM decode = .ok values
    induction values with
    | nil => rfl
    | cons value values ih =>
      obtain ⟨first, others⟩ := List.forall_mem_cons.1 each
      rw [List.map_cons, List.mapM_cons, first.decoded, ih others]
      rfl

/-- Entries are inserted one after another. -/
theorem entriesOf_map {room : Nat} {decode : Decoder α} {encode : α → Ron}
    {entries : List (String × α)}
    (each : ∀ entry ∈ entries, decode.Recovers room (encode entry.2) entry.2)
    (before : LabelMap α) :
    entriesOf decode (entries.map fun entry => (.string entry.1, encode entry.2)) before =
      .ok (entries.foldl (fun map entry => map.insert entry.1 entry.2) before) := by
  induction entries generalizing before with
  | nil => rfl
  | cons entry entries ih =>
    obtain ⟨label, value⟩ := entry
    obtain ⟨first, others⟩ := List.forall_mem_cons.1 each
    rw [List.map_cons, entriesOf, first.decoded]
    exact ih others (before.insert label value)

theorem recovers_labelMap {room : Nat} {decode : Decoder α} {encode : α → Ron} {map : LabelMap α}
    (each : ∀ entry ∈ map.entries, decode.Recovers room (encode entry.2) entry.2) :
    (Decoder.labelMap decode).Recovers (room + 2)
      (.map (map.entries.map fun entry => (.string entry.1, encode entry.2))) map where
  plain := by
    have written : map.entries.map (fun entry => (Ron.string entry.1, encode entry.2)) =
        (map.entries.map fun entry => (entry.1, encode entry.2)).map
          fun entry => (.string entry.1, entry.2) := by
      rw [List.map_map]
      rfl
    rw [written]
    refine .map ?_
    intro entry listed
    obtain ⟨present, inMap, rfl⟩ := List.mem_map.1 listed
    exact (each present inMap).plain
  decoded := by
    rw [labelMap, entriesOf_map each]
    exact congrArg Except.ok (LabelMap.ext (LabelMap.entries_ofList map.nodup))

end Decoder

/-! ## Records -/

/-- The fields of a record give this value back when the members have been written and read. -/
structure RecordFields.Recovers (fields : RecordFields α) (room : Nat)
    (members : List (String × Ron)) (value : α) : Prop where
  plain : ∀ member ∈ members, Plain room member.2
  made : fields.Makes members value

namespace RecordFields

variable {room : Nat}

theorem recovers_required {decode : Decoder α} {document : Ron} {value : α} (name : String)
    (recovered : decode.Recovers room document value) :
    (RecordFields.required name decode).Recovers room [(name, document)] value where
  plain := by simpa using recovered.plain
  made := Fields.makes_single recovered.decoded

/-- A field in front of others, none of which has its name. -/
theorem Recovers.before {decode : Decoder α} {document : Ron} {value : α}
    {name : String} {fields : RecordFields β} {members : List (String × Ron)} {others : β}
    (recovered : decode.Recovers room document value)
    (more : fields.Recovers room members others) (fresh : name ∉ members.map Prod.fst) :
    RecordFields.Recovers ((RecordFields.required name decode).both fields) room
      ((name, document) :: members) (value, others) where
  plain := List.forall_mem_cons.2 ⟨recovered.plain, more.plain⟩
  made := by
    refine (recovers_required name recovered).made.both more.made ?_
    intro other listed same
    obtain rfl : other = name := List.mem_singleton.1 same
    exact fresh listed

theorem Recovers.map {fields : RecordFields α} {members : List (String × Ron)} {value : α}
    (recovered : fields.Recovers room members value) (make : α → β) :
    RecordFields.Recovers (fields.map make) room members (make value) where
  plain := recovered.plain
  made := recovered.made.map make

end RecordFields

theorem gather_of_takes {fields : RecordFields α} {members : List (String × Ron)}
    {before after : fields.Gathered} (taken : fields.Takes members before after) :
    gather fields members before = .ok after := by
  induction taken with
  | nil => rfl
  | cons accepted _ ih => rw [gather, accepted]; exact ih

/-- **A record whose fields are recovered is recovered**, without its name in front. -/
theorem Decoder.recovers_ofFields {room : Nat} {fields : RecordFields α}
    {members : List (String × Ron)} {value : α} (typeName : String) (nonempty : members ≠ [])
    (names : (members.map Prod.fst).all isWord = true)
    (recovered : fields.Recovers room members value) :
    (Decoder.ofFields [] typeName fields).Recovers (room + 2) (.record none members) value where
  plain := .record nonempty (List.forall_mem_map.1 (List.all_eq_true.1 names)) recovered.plain
  decoded := by
    obtain ⟨gathered, taken, finished⟩ := recovered.made.taken
    show (gather fields members fields.start >>= fields.finish) = .ok value
    rw [gather_of_takes taken]
    exact finished

end EventNet.Ron
