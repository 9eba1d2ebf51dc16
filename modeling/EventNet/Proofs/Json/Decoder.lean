import EventNet.Json.Decoder
import EventNet.Proofs.Fields
import EventNet.Proofs.Json.Document

/-!
# Values that survive a JSON document

A decoder recovers a value from a JSON value if this can be written and read again, and
the decoder then gives the value (`Decoder.Recovers`). Whoever recovers the parts
recovers the whole: the fact is proved here for texts, truth values and natural numbers,
and carried along to arrays, maps from labels, names of a choice and records, in the same
way in which decoders are put together. What
a decoder makes of a text is what it makes of the reading (`Decoder.run_text`).
-/

set_option autoImplicit false

namespace EventNet.Json

variable {ε α β : Type}

/-- A decoder gives this value back when the document has been written and read. -/
structure Decoder.Recovers (decode : Decoder ε α) (document : Json) (value : α) : Prop where
  plain : document.Plain
  decoded : decode document.reading = .ok value

namespace Decoder

/-- **A decoder makes of the text of a document what it makes of its reading**, at whatever
level of indentation the text has been written. -/
theorem run_render {document : Json} (plain : document.Plain) (decode : Decoder ε α)
    (depth : Nat) :
    decode.run (String.ofList (document.render depth)) = decode document.reading := by
  rw [Decoder.run, Document.ofText_render plain]
  show decode document.reading >>= Except.ok = _
  cases decode document.reading <;> rfl

@[inherit_doc run_render]
theorem run_text {document : Json} (plain : document.Plain) (decode : Decoder ε α) :
    decode.run document.text = decode document.reading :=
  run_render plain decode 0

theorem recovers_string (text : String) :
    (Decoder.string : Decoder ε String).Recovers (.string text) text where
  plain := .string text
  decoded := rfl

theorem recovers_bool (value : Bool) :
    (Decoder.bool : Decoder ε Bool).Recovers (.bool value) value where
  plain := .bool value
  decoded := rfl

/-! ## Natural numbers -/

theorem le_ofDigitChars (digits : List Char) (number : Nat) :
    number ≤ Nat.ofDigitChars 10 digits number := by
  induction digits generalizing number with
  | nil => simp
  | cons digit digits ih =>
    rw [Nat.ofDigitChars_cons]
    exact Nat.le_trans (by omega) (ih _)

/-- Digits are taken in to the last if their number stays within the limit. -/
theorem absorb_eq {limit : Nat} (digits : List Char) (number : Nat)
    (within : Nat.ofDigitChars 10 digits number ≤ limit) :
    absorb limit number digits = (Nat.ofDigitChars 10 digits number, []) := by
  induction digits generalizing number with
  | nil => rw [absorb, Nat.ofDigitChars_nil]
  | cons digit digits ih =>
    rw [Nat.ofDigitChars_cons, Nat.mul_comm] at within ⊢
    have fits : number * 10 + digitValue digit ≤ limit :=
      Nat.le_trans (le_ofDigitChars digits _) within
    rw [absorb]
    simp only [if_pos fits]
    exact ih _ within

/-- The literal of a natural number denotes this number. -/
theorem value?_ofNat {number : Nat} (within : number ≤ maxWhole) :
    (NumberLiteral.ofNat number).value? = some (.unsigned number) := by
  have taken : absorb maxWhole 0 (Nat.toDigits 10 number) = (number, []) := by
    rw [absorb_eq _ _ (by rwa [Nat.ofDigitChars_ten_toDigits]), Nat.ofDigitChars_ten_toDigits]
  simp only [NumberLiteral.value?, NumberLiteral.ofNat, taken, Bool.not_false, if_true]

theorem recovers_nat {limit number : Nat} (within : number ≤ limit) (small : limit ≤ maxWhole) :
    (Decoder.nat limit : Decoder ε Nat).Recovers (.nat number) number where
  plain := .nat number
  decoded := by
    rw [reading_nat]
    simp only [Decoder.nat, value?_ofNat (Nat.le_trans within small), if_pos within]

/-! ## Arrays, maps and choices -/

theorem itemsOf_readings {decode : Decoder ε α} {encode : α → Json} {values : List α}
    (each : ∀ value ∈ values, decode.Recovers (encode value) value) :
    itemsOf decode none (itemReadings (values.map encode)) = .ok values := by
  induction values with
  | nil => rfl
  | cons value values ih =>
    rw [List.forall_mem_cons] at each
    rw [List.map_cons, itemReadings, itemsOf, each.1.decoded, ih each.2]
    rfl

theorem recovers_list {decode : Decoder ε α} {encode : α → Json} {values : List α}
    (each : ∀ value ∈ values, decode.Recovers (encode value) value) :
    decode.list.Recovers (Json.list encode values) values where
  plain := by
    refine .array ?_
    intro item listed
    obtain ⟨value, present, rfl⟩ := List.mem_map.1 listed
    exact (each value present).plain
  decoded := by
    rw [Json.list, reading, Decoder.list, itemsOf_readings each]

/-- Members with new names are added behind those before them. -/
theorem membersOf_readings {decode : Decoder ε α} {encode : α → Json}
    {entries : List (String × α)} (nodup : (entries.map Prod.fst).Nodup)
    (each : ∀ entry ∈ entries, decode.Recovers (encode entry.2) entry.2) (before : LabelMap α)
    (fresh : ∀ name ∈ entries.map Prod.fst, name ∉ before.keys) :
    ∃ map : LabelMap α, map.entries = before.entries ++ entries ∧
      membersOf decode none (fieldReadings (entries.map fun entry => (entry.1, encode entry.2)))
        before = .ok map := by
  induction entries generalizing before with
  | nil => exact ⟨before, (List.append_nil _).symm, rfl⟩
  | cons entry entries ih =>
    obtain ⟨name, value⟩ := entry
    rw [List.map_cons, List.nodup_cons] at nodup
    rw [List.forall_mem_cons] at each
    rw [List.map_cons, List.forall_mem_cons] at fresh
    have added : (before.insert name value).entries = before.entries ++ [(name, value)] :=
      LabelMap.upsertEntries_of_fresh _ fresh.1
    have stillFresh : ∀ other ∈ entries.map Prod.fst,
        other ∉ (before.insert name value).keys := by
      intro other listed
      rw [LabelMap.keys, added, List.map_append, List.mem_append, List.map_singleton,
        List.mem_singleton, not_or]
      exact ⟨fresh.2 other listed, fun same => nodup.1 (same ▸ listed)⟩
    obtain ⟨map, whole, read⟩ := ih nodup.2 each.2 _ stillFresh
    refine ⟨map, by rw [whole, added, List.append_assoc, List.singleton_append], ?_⟩
    rw [List.map_cons, fieldReadings, membersOf, each.1.decoded]
    exact read

theorem recovers_choice {ofName : String → Option α} {name : String} {value : α}
    (named : ofName name = some value) :
    (Decoder.choice ofName : Decoder ε α).Recovers (.string name) value where
  plain := .string name
  decoded := by
    simp only [reading, Decoder.choice, named]

end Decoder

/-! ## Records -/

/-- The fields of a record give this value back when the members have been written and read. -/
structure RecordFields.Recovers (fields : RecordFields ε α) (members : List (String × Json))
    (value : α) : Prop where
  plain : ∀ member ∈ members, member.2.Plain
  made : fields.Makes (members.map fun member => (member.1, member.2.reading)) value

namespace RecordFields

theorem recovers_required {decode : Decoder ε α} {document : Json} {value : α} (name : String)
    (recovered : decode.Recovers document value) :
    (RecordFields.required name decode).Recovers [(name, document)] value where
  plain := by simpa using recovered.plain
  made := Fields.makes_single recovered.decoded

theorem recovers_defaulted {decode : Decoder ε α} {document : Json} {value : α} (name : String)
    (otherwise : α) (recovered : decode.Recovers document value) :
    (RecordFields.defaulted name otherwise decode).Recovers [(name, document)] value where
  plain := by simpa using recovered.plain
  made := Fields.makes_single recovered.decoded

/-- A field in front of others, none of which has its name. -/
theorem Recovers.before {decode : Decoder ε α} {document : Json} {value : α} {name : String}
    {fields : RecordFields ε β} {members : List (String × Json)} {others : β}
    (recovered : decode.Recovers document value) (more : fields.Recovers members others)
    (fresh : name ∉ members.map Prod.fst) :
    RecordFields.Recovers ((RecordFields.required name decode).both fields)
      ((name, document) :: members) (value, others) where
  plain := List.forall_mem_cons.2 ⟨recovered.plain, more.plain⟩
  made := by
    have names : (members.map fun member => (member.1, member.2.reading)).map Prod.fst =
        members.map Prod.fst := by
      rw [List.map_map]
      rfl
    refine (recovers_required name recovered).made.both more.made ?_
    rw [names]
    intro other listed same
    obtain rfl : other = name := List.mem_singleton.1 same
    exact fresh listed

theorem Recovers.map {fields : RecordFields ε α} {members : List (String × Json)} {value : α}
    (recovered : fields.Recovers members value) (make : α → β) :
    RecordFields.Recovers (fields.map make) members (make value) where
  plain := recovered.plain
  made := recovered.made.map make

end RecordFields

theorem gather_of_takes {fields : RecordFields ε α} {members : List (String × Json)}
    {before after : fields.Gathered}
    (taken : fields.Takes (members.map fun member => (member.1, member.2.reading)) before after) :
    gather fields none (fieldReadings members) before = .ok after := by
  induction members generalizing before with
  | nil =>
    cases taken
    rfl
  | cons member members ih =>
    cases taken with
    | cons accepted more =>
      rw [fieldReadings, gather, accepted]
      exact ih more

/-- **A record whose fields are recovered is recovered.** -/
theorem Decoder.recovers_ofFields {fields : RecordFields ε α} {members : List (String × Json)}
    {value : α} (recovered : fields.Recovers members value) :
    (Decoder.ofFields fields).Recovers (.object members) value where
  plain := .object recovered.plain
  decoded := by
    obtain ⟨gathered, taken, finished⟩ := recovered.made.taken
    rw [reading, Decoder.ofFields, gather_of_takes taken]
    exact finished

end EventNet.Json
