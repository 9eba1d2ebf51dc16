import EventNet.Proofs.Ron.Words
import EventNet.Ron.Reading

/-!
# Reading a written value

A value is written over several lines and read back word by word, and what comes of the whole
text is the value itself (`read?_text`). As in every text without attributes, no extension is
enabled.

What carries the proof through the text is one statement about states (`ReadBack`): where a
value is awaited, its written form and the comma behind it lead to the state behind this value
and a comma. The comma is part of the statement because a bare word is not known to be a value
before the next word has come. Depth is limited in reading, so that a value also says how many
levels it needs below the place where it stands (`Plain`).
-/

set_option autoImplicit false

namespace EventNet.Ron

/-- Values that stand in the documents of nets, with the levels that they need at most:
identifiers, texts, words that announce nothing, and what is put together from them. -/
inductive Plain : Nat → Ron → Prop
  | word {room : Nat} {name : String} (isWord : isWord name = true) (other : name ≠ someName) :
    Plain room (plain name)
  | string (room : Nat) (text : String) : Plain room (.string text)
  | id (room : Nat) {number : Nat} (small : number < Nat.pow 2 64) : Plain (room + 2) (id number)
  | list {room : Nat} {items : List Ron} (each : ∀ item ∈ items, Plain room item) :
    Plain (room + 2) (.list items)
  | map {room : Nat} {entries : List (String × Ron)}
    (each : ∀ entry ∈ entries, Plain room entry.2) :
    Plain (room + 2) (.map (entries.map fun entry => (.string entry.1, entry.2)))
  | record {room : Nat} {fields : List (String × Ron)} (nonempty : fields ≠ [])
    (names : ∀ field ∈ fields, isWord field.1 = true)
    (each : ∀ field ∈ fields, Plain room field.2) :
    Plain (room + 2) (.record none fields)

/-! ## States behind a text -/

/-- The state behind a text. -/
def State.after (state : State) (text : List Char) : State :=
  (tokens text).foldl (State.step []) state

/-- A value may come next, with these values open around it and room for so many levels. -/
structure State.Awaits (state : State) (room : Nat) (frames : List Frame) : Prop where
  step_eq : ∀ word : Token, word.closes = false → state.step [] word = valueStep frames word
  fits : depthOf frames + room ≤ maxDepth

/-- An open value takes values as its members, one after another. -/
inductive TakesValues : Frame → Prop
  | list (before : List Ron) : TakesValues (.list before)
  | key (before : List (Ron × Ron)) : TakesValues (.map before none)
  | opened : TakesValues (.opened .bare)

/-- A member lies two levels below the value. -/
theorem depthOf_cons_le {frame : Frame} (weight : frame.weight = 2) {room : Nat}
    {frames : List Frame} (fits : depthOf frames + (room + 2) ≤ maxDepth) :
    depthOf (frame :: frames) + room ≤ maxDepth := by
  rw [depthOf, List.foldr_cons, ← depthOf, weight]
  omega

namespace State

theorem awaits_value {room : Nat} {frames : List Frame}
    (fits : depthOf frames + room ≤ maxDepth) : (State.value frames).Awaits room frames :=
  ⟨fun _ _ => rfl, fits⟩

theorem awaits_member {frame : Frame} (takes : TakesValues frame) {room : Nat}
    {frames : List Frame} (fits : depthOf frames + (room + 2) ≤ maxDepth) :
    (State.member (frame :: frames)).Awaits room (frame :: frames) where
  step_eq := by
    intro word other
    cases takes <;> simp [State.step, memberStep, other, Frame.admitsMore]
  fits := by cases takes <;> exact depthOf_cons_le rfl fits

namespace Awaits

variable {state : State} {room : Nat} {frames : List Frame}

theorem shallow (awaits : state.Awaits room frames) : ¬maxDepth < depthOf frames :=
  Nat.not_lt.2 (Nat.le_trans (Nat.le_add_right _ _) awaits.fits)

theorem step_openRound (awaits : state.Awaits room frames) :
    state.step [] .openRound = .member (.opened .bare :: frames) := by
  rw [awaits.step_eq _ rfl, valueStep, if_neg awaits.shallow]

theorem openValue_eq (awaits : state.Awaits (room + 2) frames) (frame : Frame) :
    openValue frame frames = .member (frame :: frames) := by
  have fits := awaits.fits
  exact if_pos (by omega)

end Awaits

end State

/-- What comes behind a complete value is a matter of the values around it. -/
theorem step_complete (frames : List Frame) (value : Ron) (next : Token) :
    (complete frames value).step [] next = stepBehind [] (complete frames value) next := by
  induction frames generalizing value with
  | nil => rfl
  | cons frame frames ih =>
    cases frame with
    | list | opened | tuple => rfl
    | announced => exact ih _
    | map before key => cases key <;> rfl
    | record label before field => cases field <;> rfl

namespace State

variable {state : State} {text rest : List Char}

theorem after_of_tokens {word : Token} (read : tokens text = word :: tokens rest) :
    state.after text = (state.step [] word).after rest := by
  rw [State.after, read, List.foldl_cons, State.after]

theorem after_mark {c : Char} {word : Token} (mark : IsMark c word) :
    state.after (c :: rest) = (state.step [] word).after rest :=
  after_of_tokens (tokens_mark mark)

theorem after_newLine (depth : Nat) : state.after (newLine depth ++ rest) = state.after rest := by
  rw [State.after, tokens_newLine, State.after]

theorem after_space : state.after (' ' :: rest) = state.after rest := by
  rw [State.after, tokens_space, State.after]

end State

/-! ## Values -/

/-- Where a value is awaited, the written form of this value leads to the state behind it. -/
def ReadWhole (room : Nat) (value : Ron) : Prop :=
  ∀ (state : State) (frames : List Frame) (depth : Nat) (rest : List Char),
    state.Awaits room frames →
      state.after (value.render depth ++ rest) = (complete frames value).after rest

/-- Where a value is awaited, the written form of this value and a comma lead to the state
behind both. -/
def ReadBack (room : Nat) (value : Ron) : Prop :=
  ∀ (state : State) (frames : List Frame) (depth : Nat) (rest : List Char),
    state.Awaits room frames →
      state.after (value.render depth ++ ',' :: rest) =
        (stepBehind [] (complete frames value) .comma).after rest

theorem ReadWhole.readBack {room : Nat} {value : Ron} (read : ReadWhole room value) :
    ReadBack room value := by
  intro state frames depth rest awaits
  rw [read state frames depth _ awaits, State.after_mark .comma, step_complete]

/-- A bare word is a value when the comma has come. -/
theorem readBack_word (room : Nat) {name : String} (word : isWord name = true)
    (other : name ≠ someName) : ReadBack room (plain name) := by
  intro state frames depth rest awaits
  have quiet : announces name false = false := by simp [announces, other]
  have written : (plain name).render depth ++ ',' :: rest = name.toList ++ ',' :: rest := by
    rw [plain, render, wordChars, if_neg Bool.false_ne_true]
  have named : state.step [] (.word name false) = .named frames name false := by
    rw [awaits.step_eq _ rfl, valueStep, if_neg awaits.shallow]
  rw [written, State.after_of_tokens (tokens_word word (.inl rfl)), named,
    State.after_mark .comma]
  show (namedStep [] frames name false .comma).after rest = _
  simp only [namedStep, quiet, Bool.false_eq_true, if_false, plain]

theorem readWhole_string (room : Nat) (text : String) : ReadWhole room (.string text) := by
  intro state frames depth rest awaits
  rw [render, State.after_of_tokens (tokens_quoted text), awaits.step_eq _ rfl, valueStep,
    if_neg awaits.shallow]

/-- An identifier is a number in parentheses. -/
theorem readWhole_id (room : Nat) {number : Nat} (small : number < Nat.pow 2 64) :
    ReadWhole (room + 2) (id number) := by
  intro state frames depth rest awaits
  have written : (id number).render depth ++ rest =
      '(' :: (Nat.toDigits 10 number ++ ')' :: rest) := by
    simp [id, render, renderMore, nameChars]
  have inside := State.awaits_member .opened awaits.fits
  have counted : (State.member (.opened .bare :: frames)).step [] (.number (toString number)) =
      .behind (.tuple .bare [.number (toString number)] :: frames) := by
    rw [inside.step_eq _ rfl, valueStep, if_neg inside.shallow]
    rfl
  rw [written, State.after_mark .openRound, awaits.step_openRound,
    State.after_of_tokens (tokens_natDigits small), counted, State.after_mark .closeRound]
  rfl

/-! ## Lists and maps -/

/-- The items of a list are read one after another. -/
theorem after_renderItems {room : Nat} {items : List Ron}
    (each : ∀ item ∈ items, ReadBack room item) {frames : List Frame}
    (fits : depthOf frames + (room + 2) ≤ maxDepth) (before : List Ron) (depth : Nat)
    (rest : List Char) :
    (State.member (.list before :: frames)).after (renderItems depth items ++ rest) =
      (State.member (.list (items.reverse ++ before) :: frames)).after rest := by
  induction items generalizing before with
  | nil => rfl
  | cons item items ih =>
    obtain ⟨first, others⟩ := List.forall_mem_cons.1 each
    rw [renderItems]
    simp only [List.append_assoc, List.cons_append]
    calc
      _ = (State.member (.list before :: frames)).after
            (item.render depth ++ ',' :: (renderItems depth items ++ rest)) :=
        State.after_newLine depth
      _ = (State.member (.list (item :: before) :: frames)).after
            (renderItems depth items ++ rest) :=
        first _ _ depth _ (State.awaits_member (.list before) fits)
      _ = _ := by
        rw [ih others, List.reverse_cons, List.append_assoc, List.singleton_append]

theorem readWhole_list {room : Nat} {items : List Ron} (each : ∀ item ∈ items, ReadBack room item) :
    ReadWhole (room + 2) (.list items) := by
  intro state frames depth rest awaits
  have opened : state.step [] .openSquare = .member (.list [] :: frames) := by
    rw [awaits.step_eq _ rfl, valueStep, if_neg awaits.shallow]
    exact awaits.openValue_eq _
  have closed (read : List Ron) : (State.member (.list read :: frames)).step [] .closeSquare =
      complete frames (.list read.reverse) := rfl
  cases items with
  | nil =>
    rw [render, List.cons_append, State.after_mark .openSquare, opened, List.cons_append,
      State.after_mark .closeSquare, closed]
    rfl
  | cons item items =>
    rw [render]
    simp only [List.cons_append, List.append_assoc, List.nil_append]
    rw [State.after_mark .openSquare, opened, after_renderItems each awaits.fits,
      State.after_newLine, State.after_mark .closeSquare, closed, List.append_nil,
      List.reverse_reverse]

/-- The entries of a map are read one after another. -/
theorem after_renderEntries {room : Nat} {entries : List (String × Ron)}
    (each : ∀ entry ∈ entries, ReadBack room entry.2) {frames : List Frame}
    (fits : depthOf frames + (room + 2) ≤ maxDepth) (before : List (Ron × Ron)) (depth : Nat)
    (rest : List Char) :
    (State.member (.map before none :: frames)).after
        (renderEntries depth (entries.map fun entry => (.string entry.1, entry.2)) ++ rest) =
      (State.member (.map ((entries.map fun entry => (.string entry.1, entry.2)).reverse ++ before)
        none :: frames)).after rest := by
  induction entries generalizing before with
  | nil => rfl
  | cons entry entries ih =>
    obtain ⟨label, value⟩ := entry
    obtain ⟨first, others⟩ := List.forall_mem_cons.1 each
    have inKey := State.awaits_member (.key before) fits
    have inValue : depthOf (.map before (some (.string label)) :: frames) + room ≤ maxDepth :=
      depthOf_cons_le rfl fits
    rw [List.map_cons, renderEntries]
    simp only [List.append_assoc, List.cons_append]
    rw [State.after_newLine, readWhole_string room label _ _ depth _ inKey,
      State.after_mark .colon]
    calc
      _ = (State.value (.map before (some (.string label)) :: frames)).after
            (value.render depth ++ ',' :: (renderEntries depth
              (entries.map fun entry => (.string entry.1, entry.2)) ++ rest)) :=
        State.after_space
      _ = (State.member (.map ((.string label, value) :: before) none :: frames)).after
            (renderEntries depth (entries.map fun entry => (.string entry.1, entry.2)) ++ rest) :=
        first _ _ depth _ (State.awaits_value inValue)
      _ = _ := by
        rw [ih others, List.reverse_cons, List.append_assoc, List.singleton_append]

theorem readWhole_map {room : Nat} {entries : List (String × Ron)}
    (each : ∀ entry ∈ entries, ReadBack room entry.2) :
    ReadWhole (room + 2) (.map (entries.map fun entry => (.string entry.1, entry.2))) := by
  intro state frames depth rest awaits
  have opened : state.step [] .openCurly = .member (.map [] none :: frames) := by
    rw [awaits.step_eq _ rfl, valueStep, if_neg awaits.shallow]
    exact awaits.openValue_eq _
  have closed (read : List (Ron × Ron)) :
      (State.member (.map read none :: frames)).step [] .closeCurly =
        complete frames (.map read.reverse) := rfl
  cases entries with
  | nil =>
    rw [List.map_nil, render, List.cons_append, State.after_mark .openCurly, opened,
      List.cons_append, State.after_mark .closeCurly, closed]
    rfl
  | cons entry entries =>
    have through := after_renderEntries each awaits.fits [] (depth + 1)
    rw [List.map_cons] at through ⊢
    rw [render]
    simp only [List.cons_append, List.append_assoc, List.nil_append]
    rw [State.after_mark .openCurly, opened, through, State.after_newLine,
      State.after_mark .closeCurly, closed, List.append_nil, List.reverse_reverse]

/-! ## Records -/

/-- Members of a record may come, and these have come before. -/
inductive InRecord : Frame → List (String × Ron) → Prop
  | opened : InRecord (.opened .bare) []
  | record (before : List (String × Ron)) : InRecord (.record .bare before none) before

/-- A field of a record is its name, a colon and its value. -/
theorem after_field {room : Nat} {frame : Frame} {before : List (String × Ron)}
    (inRecord : InRecord frame before) {name : String} {value : Ron} (word : isWord name = true)
    (read : ReadBack room value) {frames : List Frame}
    (fits : depthOf frames + (room + 2) ≤ maxDepth) (depth : Nat) (rest : List Char) :
    (State.member (frame :: frames)).after
        (newLine depth ++ (name.toList ++ ':' :: ' ' :: (value.render depth ++ ',' :: rest))) =
      (State.member (.record .bare ((name, value) :: before) none :: frames)).after rest := by
  have keyed : ((State.member (frame :: frames)).step [] (.word name false)).step [] .colon =
      .value (.record .bare before (some name) :: frames) := by
    cases inRecord with
    | record => rfl
    | opened =>
      -- the name is taken for a value until the colon comes
      have inside := State.awaits_member .opened fits
      rw [inside.step_eq _ rfl, valueStep, if_neg inside.shallow]
      rfl
  rw [State.after_newLine, State.after_of_tokens (tokens_word word (.inr rfl)),
    State.after_mark .colon, keyed, State.after_space]
  exact read _ _ depth _ (State.awaits_value (depthOf_cons_le rfl fits))

/-- The fields of a record are read one after another. -/
theorem after_renderFields {room : Nat} {fields : List (String × Ron)}
    (names : ∀ field ∈ fields, isWord field.1 = true)
    (each : ∀ field ∈ fields, ReadBack room field.2) {frames : List Frame}
    (fits : depthOf frames + (room + 2) ≤ maxDepth) (before : List (String × Ron)) (depth : Nat)
    (rest : List Char) :
    (State.member (.record .bare before none :: frames)).after (renderFields depth fields ++ rest) =
      (State.member (.record .bare (fields.reverse ++ before) none :: frames)).after rest := by
  induction fields generalizing before with
  | nil => rfl
  | cons field fields ih =>
    obtain ⟨name, value⟩ := field
    obtain ⟨first, others⟩ := List.forall_mem_cons.1 each
    obtain ⟨word, otherNames⟩ := List.forall_mem_cons.1 names
    rw [renderFields]
    simp only [List.append_assoc, List.cons_append]
    rw [after_field (.record before) word first fits depth, ih otherNames others,
      List.reverse_cons, List.append_assoc, List.singleton_append]

theorem readWhole_record {room : Nat} {fields : List (String × Ron)} (nonempty : fields ≠ [])
    (names : ∀ field ∈ fields, isWord field.1 = true)
    (each : ∀ field ∈ fields, ReadBack room field.2) :
    ReadWhole (room + 2) (.record none fields) := by
  intro state frames depth rest awaits
  cases fields with
  | nil => exact absurd rfl nonempty
  | cons field fields =>
    obtain ⟨name, value⟩ := field
    obtain ⟨first, others⟩ := List.forall_mem_cons.1 each
    obtain ⟨word, otherNames⟩ := List.forall_mem_cons.1 names
    have closed (read : List (String × Ron)) :
        (State.member (.record .bare read none :: frames)).step [] .closeRound =
          complete frames (.record none read.reverse) := rfl
    rw [render, renderFields]
    simp only [nameChars, Option.getD_none, String.toList_empty, List.append_assoc,
      List.cons_append, List.nil_append]
    rw [State.after_mark .openRound, awaits.step_openRound,
      after_field .opened word first awaits.fits,
      after_renderFields otherNames others awaits.fits, State.after_newLine,
      State.after_mark .closeRound, closed, List.reverse_append, List.reverse_reverse]
    rfl

/-! ## Whole texts -/

/-- **A plain value is read back.** -/
theorem Plain.readBack {room : Nat} {value : Ron} (plain : Plain room value) :
    ReadBack room value := by
  induction plain with
  | word isWord other => exact readBack_word _ isWord other
  | string room text => exact (readWhole_string room text).readBack
  | id room small => exact (readWhole_id room small).readBack
  | list _ ih => exact (readWhole_list ih).readBack
  | map _ ih => exact (readWhole_map ih).readBack
  | record nonempty names _ ih => exact (readWhole_record nonempty names ih).readBack

/-- A record has no attributes in front. -/
theorem attributes?_record (depth : Nat) (fields : List (String × Ron)) :
    attributes? [] (tokens ((Ron.record none fields).render depth)) =
      some ([], tokens ((Ron.record none fields).render depth)) := by
  have starts : (Ron.record none fields).render depth =
      '(' :: (renderFields (depth + 1) fields ++ newLine depth ++ [')']) := by
    simp [render, nameChars]
  rw [starts, tokens_mark .openRound, attributes?]
  all_goals simp

/-- **The text of a plain record is a document with this record and nothing behind it.** -/
theorem read?_text {room : Nat} {fields : List (String × Ron)}
    (plain : Plain room (.record none fields)) (fits : room ≤ maxDepth) :
    read? (Ron.record none fields).text =
      some { extensions := [], value := .record none fields, hasMore := false } := by
  cases plain with
  | @record room _ nonempty names each =>
    have readBack : ∀ field ∈ fields, ReadBack room field.2 := fun field listed =>
      (each field listed).readBack
    have shallow : depthOf [] + (room + 2) ≤ maxDepth := by
      rw [depthOf, List.foldr_nil, Nat.zero_add]
      exact fits
    have whole := readWhole_record nonempty names readBack (.value []) [] 0 []
      (State.awaits_value shallow)
    rw [List.append_nil] at whole
    have folded : (tokens ((Ron.record none fields).render 0)).foldl (State.step []) (.value []) =
        .whole (.record none fields) := by
      refine whole.trans ?_
      rw [State.after, tokens]
      rfl
    simp [read?, text, attributes?_record, folded, State.finish?]

end EventNet.Ron
