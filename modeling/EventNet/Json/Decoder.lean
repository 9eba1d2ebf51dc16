import EventNet.Fields
import EventNet.Json.Reading
import EventNet.LabelMap

/-!
# Values from JSON texts

A decoder asks a reading for a value of some type and gives the first problem, from
left to right, that keeps the text from holding one. A value of the wrong type is a
problem at its start, whatever comes inside it; a text that ends or breaks off is one
where that happens.

Beside the problems of texts there are those of their contents, such as a net that
contradicts itself. They are met as soon as the value is complete.
-/

set_option autoImplicit false

namespace EventNet.Json

/-- Why a text holds no value of the wanted type. -/
inductive Refusal (ε : Type) where
  /-- The text is at fault. -/
  | problem (problem : Problem)
  /-- The value is at fault. -/
  | rejected (reason : ε)

/-- A way to get a value from a reading. -/
abbrev Decoder (ε α : Type) := Reading → Except (Refusal ε) α

variable {ε α : Type}

/-- The problem of a reading that is no value of the wanted type. -/
def Reading.mismatch : Reading → Problem
  | flawed flaw => flaw.wanted
  | string none => .malformed
  | number literal => if literal.value?.isSome then .unsuitable else .malformed
  | _ => .unsuitable

/-- Refuses a reading of the wrong type. -/
def refuse (reading : Reading) : Except (Refusal ε) α := .error (.problem reading.mismatch)

/-- A truth value. -/
def Decoder.bool : Decoder ε Bool
  | .bool value => .ok value
  | reading => refuse reading

/-- A text. -/
def Decoder.string : Decoder ε String
  | .string (some text) => .ok text
  | reading => refuse reading

/-- A natural number up to a limit. -/
def Decoder.nat (limit : Nat) : Decoder ε Nat
  | .number literal =>
    match literal.value? with
    | some (.unsigned value) =>
      if value ≤ limit then .ok value else .error (.problem .unsuitable)
    | _ => refuse (.number literal)
  | reading => refuse reading

/-- A float; whole numbers count as floats. -/
def Decoder.float : Decoder ε Float
  | .number literal =>
    match literal.value? with
    | some (.unsigned value) => .ok (Float.ofNat value)
    | some (.negated magnitude) => .ok (-Float.ofNat magnitude)
    | some (.float value) => .ok value
    | none => refuse (.number literal)
  | reading => refuse reading

/-- A value, or null. -/
def Decoder.orNull (decode : Decoder ε α) : Decoder ε (Option α)
  | .null => .ok none
  | reading => (decode reading).map some

/-- Refuses if there is a problem. -/
def closed (cut : Option Problem) (value : α) : Except (Refusal ε) α :=
  match cut with
  | none => .ok value
  | some problem => .error (.problem problem)

/-- The values of items. -/
def itemsOf (decode : Decoder ε α) (cut : Option Problem) :
    List Reading → Except (Refusal ε) (List α)
  | [] => closed cut []
  | item :: items => do
    let value ← decode item
    let values ← itemsOf decode cut items
    return value :: values

/-- An array of values of one type. -/
def Decoder.list (decode : Decoder ε α) : Decoder ε (List α)
  | .array items cut => itemsOf decode cut items
  | reading => refuse reading

/-- The members of an object, added to those before them. A name that comes again replaces
the value and keeps its place. -/
def membersOf (decode : Decoder ε α) (cut : Option Problem) :
    List (Key × Reading) → LabelMap α → Except (Refusal ε) (LabelMap α)
  | [], before => closed cut before
  | (.flawed flaw, _) :: _, _ => .error (.problem flaw.wanted)
  | (.name none, _) :: _, _ => .error (.problem .malformed)
  | (.name (some name), value) :: fields, before => do
    let value ← decode value
    membersOf decode cut fields (before.insert name value)

/-- An object whose members all have one type. -/
def Decoder.labelMap (decode : Decoder ε α) : Decoder ε (LabelMap α)
  | .object fields cut => membersOf decode cut fields LabelMap.empty
  | reading => refuse reading

/-- One of several names, alone or as the only key of an object with the value null. -/
def Decoder.choice (ofName : String → Option α) : Decoder ε α := fun reading =>
  let named (name : Option String) : Except (Refusal ε) α :=
    match name with
    | none => .error (.problem .malformed)
    | some name =>
      match ofName name with
      | none => .error (.problem .unsuitable)
      | some value => .ok value
  match reading with
  | .string name => named name
  | .object [] none => .error (.problem .malformed)
  | .object [] (some problem) => .error (.problem problem)
  | .object ((.flawed flaw, _) :: _) _ => .error (.problem flaw.asChoice)
  | .object ((.name name, value) :: fields) cut => do
    let result ← named name
    match value, fields with
    | .null, [] => closed cut result
    | .null, _ :: _ => .error (.problem .malformed)
    | value, _ => refuse value
  | .flawed flaw => .error (.problem flaw.asChoice)
  | _ => .error (.problem .malformed)

/-- Fields of a record in a JSON text. -/
abbrev RecordFields (ε α : Type) := Fields Reading (Refusal ε) α

/-- A field that must come. -/
def RecordFields.required (name : String) (decode : Decoder ε α) : RecordFields ε α :=
  Fields.single (.problem .unsuitable) none none name decode

/-- A field that is empty if it does not come. -/
def RecordFields.optional (name : String) (decode : Decoder ε α) : RecordFields ε (Option α) :=
  Fields.single (.problem .unsuitable) (some none) none name decode.orNull

/-- A field that has a value of its own if it does not come. -/
def RecordFields.defaulted (name : String) (value : α) (decode : Decoder ε α) :
    RecordFields ε α :=
  Fields.single (.problem .unsuitable) (some value) (some value) name decode

/-- Gathers the members of an object. -/
def gather (fields : RecordFields ε α) (cut : Option Problem) :
    List (Key × Reading) → fields.Gathered → Except (Refusal ε) fields.Gathered
  | [], gathered => closed cut gathered
  | (.flawed flaw, _) :: _, _ => .error (.problem flaw.wanted)
  | (.name none, _) :: _, _ => .error (.problem .malformed)
  | (.name (some name), value) :: members, gathered =>
    match fields.accept name value gathered with
    | some (.error refusal) => .error refusal
    | some (.ok gathered) => gather fields cut members gathered
    | none =>
      match value.skipProblem? with
      | some problem => .error (.problem problem)
      | none => gather fields cut members gathered

/-- A record, as an object or as the array of its values. -/
def Decoder.ofFields (fields : RecordFields ε α) : Decoder ε α
  | .object members cut => do
    let gathered ← gather fields cut members fields.start
    fields.finish gathered
  | .array items cut => do
    let (value, rest) ← fields.positional (cut.map .problem) items
    match rest with
    | [] => closed cut value
    | _ :: _ => .error (.problem .malformed)
  | reading => refuse reading

/-- Decodes a whole text; nothing may follow its value. -/
def Decoder.run (decode : Decoder ε α) (text : String) : Except (Refusal ε) α := do
  let document := Document.ofText text
  let value ← decode document.value
  if document.trailing then .error (.problem .malformed) else .ok value

end EventNet.Json
