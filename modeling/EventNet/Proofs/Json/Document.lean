import EventNet.Json.Reading
import EventNet.Proofs.Json.Words

/-!
# Reading a written value

A JSON value is written over several lines and read back word by word. What comes of the
whole text is the reading of the value (`Json.reading`), with its items and members in
their order, and nothing is left over (`Document.ofText_render`).

What carries the proof through the text is one statement about states (`ReadBack`): where
a value is wanted, the written form of a value leads to the state behind this value,
whatever is still open around it and whatever follows.
-/

set_option autoImplicit false

namespace EventNet.Json

/-- A value whose numbers are natural numbers. -/
inductive Plain : Json → Prop
  | null : Plain .null
  | bool (value : Bool) : Plain (.bool value)
  | nat (number : Nat) : Plain (.nat number)
  | string (text : String) : Plain (.string text)
  | array {items : List Json} (each : ∀ item ∈ items, Plain item) : Plain (.array items)
  | object {fields : List (String × Json)} (each : ∀ field ∈ fields, Plain field.2) :
    Plain (.object fields)

mutual

/-- What comes of the written form of a value. -/
def reading : Json → Reading
  | .null => .null
  | .bool value => .bool value
  | .number literal => .number { negative := false, whole := literal.toList }
  | .string text => .string (some text)
  | .array items => .array (itemReadings items) none
  | .object fields => .object (fieldReadings fields) none

/-- What comes of items. -/
def itemReadings : List Json → List Reading
  | [] => []
  | item :: items => item.reading :: itemReadings items

/-- What comes of members. -/
def fieldReadings : List (String × Json) → List (Key × Reading)
  | [] => []
  | (name, value) :: fields => (.name (some name), value.reading) :: fieldReadings fields

end

theorem reading_nat (number : Nat) : (nat number).reading = .number (.ofNat number) := by
  rw [nat, reading, Nat.toString_eq_repr, Nat.toList_repr, NumberLiteral.ofNat]

/-! ## States behind a text -/

/-- The state behind a text. -/
def State.after (state : State) (text : List Char) : State := (tokens text).foldl State.step state

/-- A value may come next, with these values open around it. -/
def State.WantsValue (state : State) (frames : List Frame) : Prop :=
  ∀ word : Token, word ≠ .closeArray → state.step word = valueStep frames word

theorem State.wantsValue_value (frames : List Frame) : (State.value frames).WantsValue frames :=
  fun _ _ => rfl

/-- The first item of an array is read like any other, for no value starts with the end of
an array. -/
theorem State.wantsValue_itemOrEnd (frames : List Frame) :
    (State.itemOrEnd frames).WantsValue (.array [] :: frames) := by
  intro word other
  cases word
  case closeArray => exact absurd rfl other
  all_goals rfl

/-- A word of one character. -/
inductive IsMark : Char → Token → Prop
  | openArray : IsMark '[' .openArray
  | closeArray : IsMark ']' .closeArray
  | openObject : IsMark '{' .openObject
  | closeObject : IsMark '}' .closeObject
  | comma : IsMark ',' .comma
  | colon : IsMark ':' .colon

namespace State

variable {state : State} {text rest : List Char}

theorem after_of_tokens {word : Token} (read : tokens text = word :: tokens rest) :
    state.after text = (state.step word).after rest := by
  rw [State.after, read, List.foldl_cons, State.after]

theorem after_mark {c : Char} {word : Token} (mark : IsMark c word) :
    state.after (c :: rest) = (state.step word).after rest := by
  cases mark <;> exact after_of_tokens (tokens_of_word rfl rfl)

theorem after_newLine (depth : Nat) : state.after (newLine depth ++ rest) = state.after rest := by
  rw [State.after, tokens_newLine, State.after]

/-- What stands before the value of a member: its name, a colon and a blank. -/
theorem after_name (name : String) :
    state.after (quoted name ++ (':' :: ' ' :: rest)) =
      ((state.step (.string (some name))).step .colon).after rest := by
  have blank : tokens (' ' :: rest) = tokens rest := tokens_of_isSpace rfl
  rw [after_of_tokens (tokens_quoted name), after_mark .colon, State.after, blank, State.after]

end State

/-! ## Values -/

/-- Where a value is wanted, the written form of this value leads to the state behind it. -/
def ReadBack (value : Json) : Prop :=
  ∀ (state : State) (frames : List Frame) (depth : Nat) (rest : List Char),
    state.WantsValue frames → EndsNumber rest →
      state.after (value.render depth ++ rest) = (complete frames value.reading).after rest

/-- What follows an item ends a number. -/
theorem endsNumber_renderItems {depth : Nat} {items : List Json} {rest : List Char}
    (ends : EndsNumber rest) : EndsNumber (renderItems depth items ++ rest) := by
  cases items with
  | nil => exact ends
  | cons => exact endsNumber_comma

@[inherit_doc endsNumber_renderItems]
theorem endsNumber_renderFields {depth : Nat} {fields : List (String × Json)} {rest : List Char}
    (ends : EndsNumber rest) : EndsNumber (renderFields depth fields ++ rest) := by
  cases fields with
  | nil => exact ends
  | cons => exact endsNumber_comma

theorem after_renderItems {items : List Json} (each : ∀ item ∈ items, item.ReadBack)
    (frames : List Frame) (before : List Reading) (depth : Nat) {rest : List Char}
    (ends : EndsNumber rest) :
    (State.inArray frames before).after (renderItems depth items ++ rest) =
      (State.inArray frames ((itemReadings items).reverse ++ before)).after rest := by
  induction items generalizing before with
  | nil => rfl
  | cons item items ih =>
    obtain ⟨first, others⟩ := List.forall_mem_cons.1 each
    rw [renderItems]
    simp only [List.cons_append, List.append_assoc]
    calc
      _ = (State.value (.array before :: frames)).after
            (item.render depth ++ (renderItems depth items ++ rest)) := by
        rw [State.after_mark .comma, State.after_newLine, State.step]
      _ = (State.inArray frames (item.reading :: before)).after
            (renderItems depth items ++ rest) :=
        first _ _ _ _ (State.wantsValue_value _) (endsNumber_renderItems ends)
      _ = _ := by
        rw [ih others, itemReadings, List.reverse_cons, List.append_assoc, List.singleton_append]

theorem after_renderFields {fields : List (String × Json)}
    (each : ∀ field ∈ fields, field.2.ReadBack) (frames : List Frame)
    (before : List (Key × Reading)) (depth : Nat) {rest : List Char} (ends : EndsNumber rest) :
    (State.inObject frames before).after (renderFields depth fields ++ rest) =
      (State.inObject frames ((fieldReadings fields).reverse ++ before)).after rest := by
  induction fields generalizing before with
  | nil => rfl
  | cons field fields ih =>
    obtain ⟨name, value⟩ := field
    obtain ⟨first, others⟩ := List.forall_mem_cons.1 each
    rw [renderFields]
    simp only [List.cons_append, List.append_assoc, List.nil_append]
    calc
      _ = (State.value (.object before (.name (some name)) :: frames)).after
            (value.render depth ++ (renderFields depth fields ++ rest)) := by
        rw [State.after_mark .comma, State.after_newLine, State.after_name]
        rfl
      _ = (State.inObject frames ((.name (some name), value.reading) :: before)).after
            (renderFields depth fields ++ rest) :=
        first _ _ _ _ (State.wantsValue_value _) (endsNumber_renderFields ends)
      _ = _ := by
        rw [ih others, fieldReadings, List.reverse_cons, List.append_assoc,
          List.singleton_append]

/-- A value that is one word is read back. -/
theorem readBack_of_word {value : Json} (word : Token) (other : word ≠ .closeArray)
    (read : ∀ (depth : Nat) (rest : List Char), EndsNumber rest →
      tokens (value.render depth ++ rest) = word :: tokens rest)
    (meaning : ∀ frames : List Frame, valueStep frames word = complete frames value.reading) :
    value.ReadBack := by
  intro state frames depth rest wants ends
  rw [State.after_of_tokens (read depth rest ends), wants word other, meaning]

theorem readBack_array {items : List Json} (each : ∀ item ∈ items, item.ReadBack) :
    (Json.array items).ReadBack := by
  intro state frames depth rest wants _
  have opened : state.step .openArray = .itemOrEnd frames := wants .openArray nofun
  rw [reading]
  cases items with
  | nil =>
    rw [render, List.cons_append, State.after_mark .openArray, opened, List.cons_append,
      State.after_mark .closeArray]
    rfl
  | cons item items =>
    obtain ⟨first, others⟩ := List.forall_mem_cons.1 each
    have ends : EndsNumber (newLine depth ++ (']' :: rest)) := endsNumber_newLine depth
    rw [render]
    simp only [List.cons_append, List.append_assoc, List.nil_append]
    calc
      _ = (State.itemOrEnd frames).after (item.render (depth + 1) ++
            (renderItems (depth + 1) items ++ (newLine depth ++ ']' :: rest))) := by
        rw [State.after_mark .openArray, opened, State.after_newLine]
      _ = (State.inArray frames [item.reading]).after
            (renderItems (depth + 1) items ++ (newLine depth ++ ']' :: rest)) :=
        first _ _ _ _ (State.wantsValue_itemOrEnd _) (endsNumber_renderItems ends)
      _ = (State.inArray frames ((itemReadings items).reverse ++ [item.reading])).after
            (newLine depth ++ ']' :: rest) :=
        after_renderItems others _ _ _ ends
      _ = _ := by
        rw [State.after_newLine, State.after_mark .closeArray]
        simp [State.step, itemReadings]

theorem readBack_object {fields : List (String × Json)}
    (each : ∀ field ∈ fields, field.2.ReadBack) : (Json.object fields).ReadBack := by
  intro state frames depth rest wants _
  have opened : state.step .openObject = .keyOrEnd frames := wants .openObject nofun
  rw [reading]
  cases fields with
  | nil =>
    rw [render, List.cons_append, State.after_mark .openObject, opened, List.cons_append,
      State.after_mark .closeObject]
    rfl
  | cons field fields =>
    obtain ⟨name, value⟩ := field
    obtain ⟨first, others⟩ := List.forall_mem_cons.1 each
    have ends : EndsNumber (newLine depth ++ ('}' :: rest)) := endsNumber_newLine depth
    rw [render]
    simp only [List.cons_append, List.append_assoc, List.nil_append]
    calc
      _ = (State.value (.object [] (.name (some name)) :: frames)).after
            (value.render (depth + 1) ++
              (renderFields (depth + 1) fields ++ (newLine depth ++ '}' :: rest))) := by
        rw [State.after_mark .openObject, opened, State.after_newLine, State.after_name]
        rfl
      _ = (State.inObject frames [(.name (some name), value.reading)]).after
            (renderFields (depth + 1) fields ++ (newLine depth ++ '}' :: rest)) :=
        first _ _ _ _ (State.wantsValue_value _) (endsNumber_renderFields ends)
      _ = (State.inObject frames
            ((fieldReadings fields).reverse ++ [(.name (some name), value.reading)])).after
            (newLine depth ++ '}' :: rest) :=
        after_renderFields others _ _ _ ends
      _ = _ := by
        rw [State.after_newLine, State.after_mark .closeObject]
        simp [State.step, fieldReadings]

/-- **A plain value is read back.** -/
theorem Plain.readBack {value : Json} (plain : value.Plain) : value.ReadBack := by
  induction plain with
  | null => exact readBack_of_word .null nofun (fun _ _ _ => tokens_of_word rfl rfl) fun _ => rfl
  | bool value =>
    refine readBack_of_word (.bool value) nofun (fun _ _ _ => ?_) fun _ => rfl
    cases value <;> exact tokens_of_word rfl rfl
  | nat number =>
    refine readBack_of_word (.number (.ofNat number)) nofun (fun depth rest ends => ?_) fun _ => ?_
    · rw [Json.nat, render, Nat.toString_eq_repr, Nat.toList_repr]
      exact tokens_natDigits number ends
    · rw [reading_nat, valueStep]
  | string text =>
    exact readBack_of_word (.string (some text)) nofun (fun _ _ _ => tokens_quoted text)
      fun _ => rfl
  | array _ ih => exact readBack_array ih
  | object _ ih => exact readBack_object ih

/-- **The text of a plain value is a document with this value and nothing behind it**, at
whatever level of indentation it has been written. -/
theorem Document.ofText_render {value : Json} (plain : value.Plain) (depth : Nat) :
    Document.ofText (String.ofList (value.render depth)) =
      { value := value.reading, trailing := false } := by
  have read := plain.readBack (.value []) [] depth [] (State.wantsValue_value []) endsNumber_nil
  rw [List.append_nil] at read
  rw [Document.ofText, String.toList_ofList]
  show State.finish ((State.value []).after _) = _
  rw [read, State.after, tokens]
  rfl

end EventNet.Json
