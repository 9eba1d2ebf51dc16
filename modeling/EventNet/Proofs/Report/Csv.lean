import EventNet.Report.Audit

/-!
# Reading an audit table

A reader of tables as RFC 4180 describes them, apart from the way in which the table is
written: records end with a line feed, fields are separated by commas, and a field between
quotation marks may hold anything, with quotation marks in it doubled. In a field without
quotation marks there is none and no carriage return either.

The reader goes through the text character by character (`Scan.step`). Whatever stands in a
label, what the table has as a field is read as this label (`Scan.run_field`), so the events
are read one by one (`Scan.run_row`) and a table is read as its header and its events
(`read?_table`). Numbers are written in digits, so the events themselves can be told from the
fields (`events?_table`).
-/

set_option autoImplicit false

namespace EventNet.Csv

/-! ## The reader -/

/-- Where in a record the reader is. -/
inductive Mode where
  /-- At the start of a field. -/
  | start
  /-- In a field without quotation marks. -/
  | plain
  /-- In a field between quotation marks. -/
  | quoted
  /-- Behind a quotation mark in such a field: its end, or the first of two. -/
  | closing
  deriving DecidableEq

/-- What has been read so far. -/
structure Scan where
  mode : Mode := .start
  records : List (List String) := []
  /-- The fields of the record that has not come to an end yet. -/
  fields : List String := []
  /-- The field that has not come to an end yet. -/
  text : List Char := []
  deriving DecidableEq

/-- A character that stands for itself between quotation marks only. -/
def isSpecial (c : Char) : Bool := c == ',' || c == '"' || c == '\n' || c == '\r'

namespace Scan

/-- The end of a field. -/
def endField (scan : Scan) : Scan :=
  { scan with mode := .start, fields := scan.fields ++ [String.ofList scan.text], text := [] }

/-- The end of a record. -/
def endRecord (scan : Scan) : Scan :=
  { scan.endField with records := scan.records ++ [scan.endField.fields], fields := [] }

/-- What ends a field: a comma or a line feed. -/
def separate? (scan : Scan) (c : Char) : Option Scan :=
  if c = ',' then some scan.endField
  else if c = '\n' then some scan.endRecord
  else none

/-- A character of the field. -/
def extend (scan : Scan) (mode : Mode) (c : Char) : Scan :=
  { scan with mode, text := scan.text ++ [c] }

/-- Takes in a character, if it may stand there. -/
def step (scan : Scan) (c : Char) : Option Scan :=
  match scan.mode with
  | .start =>
    if c = '"' then some { scan with mode := .quoted }
    else if isSpecial c then scan.separate? c
    else some (scan.extend .plain c)
  | .plain => if isSpecial c then scan.separate? c else some (scan.extend .plain c)
  | .quoted => some (if c = '"' then { scan with mode := .closing } else scan.extend .quoted c)
  | .closing => if c = '"' then some (scan.extend .quoted c) else scan.separate? c

/-- Takes in a text. -/
def run (scan : Scan) (text : List Char) : Option Scan := text.foldlM step scan

/-- The records, if the text may end here. The last record may lack its line feed. -/
def finish? (scan : Scan) : Option (List (List String)) :=
  match scan.mode with
  | .quoted => none
  | .start => some (if scan.fields = [] then scan.records else scan.endRecord.records)
  | .plain | .closing => some scan.endRecord.records

end Scan

/-- Reads a table as its records, each of which is the list of its fields. -/
def read? (text : String) : Option (List (List String)) :=
  (Scan.run {} text.toList).bind Scan.finish?

/-! ## Fields -/

namespace Scan

variable {scan : Scan} {text rest : List Char} {separator : Char}

theorem run_cons (scan : Scan) (c : Char) (rest : List Char) :
    scan.run (c :: rest) = (scan.step c).bind fun next => next.run rest :=
  List.foldlM_cons

/-- A comma or a line feed. -/
def IsSeparator (c : Char) : Prop := c = ',' ∨ c = '\n'

/-- Plain characters up to the end of a field. -/
theorem run_plain (inField : scan.mode = .start ∨ scan.mode = .plain)
    (plain : ∀ c ∈ text, isSpecial c = false) (ends : IsSeparator separator) :
    scan.run (text ++ separator :: rest) =
      ({ scan with text := scan.text ++ text }.separate? separator).bind
        fun next => next.run rest := by
  induction text generalizing scan with
  | nil =>
    have special : isSpecial separator = true := by
      rcases ends with rfl | rfl <;> rfl
    have noQuote : separator ≠ '"' := by
      rcases ends with rfl | rfl <;> decide
    rw [List.nil_append, List.append_nil, run_cons]
    rcases inField with mode | mode
    · simp only [step, mode, if_neg noQuote, if_pos special]
      rfl
    · simp only [step, mode, if_pos special]
      rfl
  | cons c text ih =>
    obtain ⟨here, others⟩ := List.forall_mem_cons.1 plain
    have noQuote : c ≠ '"' := by
      rintro rfl
      exact absurd here (by decide)
    have next : scan.step c = some (scan.extend .plain c) := by
      rcases inField with mode | mode
      · simp only [step, mode, if_neg noQuote, here, Bool.false_eq_true, if_false]
      · simp only [step, mode, here, Bool.false_eq_true, if_false]
    rw [List.cons_append, run_cons, next, Option.bind_some, ih (.inr rfl) others, extend,
      List.append_assoc, List.singleton_append]
    rfl

/-- Doubled quotation marks and other characters up to the closing quotation mark. -/
theorem run_quoted (inField : scan.mode = .quoted) (ends : IsSeparator separator) :
    scan.run (text.flatMap Audit.doubled ++ '"' :: separator :: rest) =
      ({ scan with text := scan.text ++ text }.separate? separator).bind
        fun next => next.run rest := by
  induction text generalizing scan with
  | nil =>
    have noQuote : separator ≠ '"' := by
      rcases ends with rfl | rfl <;> decide
    have closed : scan.step '"' = some { scan with mode := .closing } := by
      simp only [step, inField, if_true]
    rw [List.flatMap_nil, List.nil_append, List.append_nil, run_cons, closed, Option.bind_some,
      run_cons]
    simp only [step, if_neg noQuote]
    rfl
  | cons c text ih =>
    have next : scan.run
        (Audit.doubled c ++ (text.flatMap Audit.doubled ++ '"' :: separator :: rest)) =
          (scan.extend .quoted c).run (text.flatMap Audit.doubled ++ '"' :: separator :: rest) := by
      by_cases quote : c = '"'
      · subst quote
        have closed : scan.step '"' = some { scan with mode := .closing } := by
          simp only [step, inField, if_true]
        have again : { scan with mode := .closing }.step '"' = some (scan.extend .quoted '"') := rfl
        rw [Audit.doubled, if_pos rfl, List.cons_append, run_cons, closed, Option.bind_some,
          List.cons_append, run_cons, again]
        rfl
      · have taken : scan.step c = some (scan.extend .quoted c) := by
          simp only [step, inField, if_neg quote]
        rw [Audit.doubled, if_neg quote, List.cons_append, run_cons, taken]
        rfl
    rw [List.flatMap_cons, List.append_assoc, next, ih rfl, extend, List.append_assoc,
      List.singleton_append]
    rfl

/-- **A field of the table is read as the text that it was made of**, whatever this holds. -/
theorem run_field (atStart : scan.mode = .start) (empty : scan.text = []) (field : String)
    (ends : IsSeparator separator) :
    scan.run ((Audit.field field).toList ++ separator :: rest) =
      ({ scan with text := field.toList }.separate? separator).bind fun next => next.run rest := by
  unfold Audit.field
  split
  · have opened : scan.step '"' = some { scan with mode := .quoted } := by
      simp only [step, atStart, if_true]
    have inside : { scan with mode := .quoted }.run
        (field.toList.flatMap Audit.doubled ++ '"' :: separator :: rest) = _ :=
      run_quoted rfl ends
    rw [String.toList_ofList, List.cons_append, List.cons_append, List.append_assoc, run_cons,
      opened, empty]
    rw [empty, List.nil_append] at inside
    exact inside
  · rename_i none
    have plain : ∀ c ∈ field.toList, isSpecial c = false := by
      intro c member
      apply Bool.eq_false_iff.2
      intro special
      exact none (List.any_eq_true.2 ⟨c, member, special⟩)
    rw [run_plain (.inl atStart) plain ends, empty, List.nil_append]

/-! ## Rows -/

/-- The reader at the start of a field, with this behind it. -/
def between (records : List (List String)) (fields : List String) : Scan := { records, fields }

variable {records : List (List String)} {fields : List String}

/-- A field in front of a comma. -/
theorem run_comma (field : String) :
    (between records fields).run ((Audit.field field).toList ++ ',' :: rest) =
      (between records (fields ++ [field])).run rest := by
  rw [run_field rfl rfl field (.inl rfl)]
  simp only [separate?, if_true, endField, String.ofList_toList, Option.bind_some]
  rfl

/-- The last field of a record. -/
theorem run_lineFeed (field : String) :
    (between records fields).run ((Audit.field field).toList ++ '\n' :: rest) =
      (between (records ++ [fields ++ [field]]) []).run rest := by
  rw [run_field rfl rfl field (.inr rfl)]
  have noComma : '\n' ≠ ',' := by decide
  simp only [separate?, if_neg noComma, if_true, endRecord, endField, String.ofList_toList,
    Option.bind_some]
  rfl

end Scan

theorem isDigit_of_mem_toString {number : Nat} {c : Char}
    (listed : c ∈ (toString number).toList) : c.isDigit = true := by
  rw [Nat.toString_eq_repr, Nat.toList_repr] at listed
  exact Nat.isDigit_of_mem_toDigits (by decide) (by decide) listed

/-- Numbers are written without quotation marks. -/
theorem field_toString (number : Nat) : Audit.field (toString number) = toString number := by
  have plain : ∀ c ∈ (toString number).toList, Audit.needsQuotes c = false := by
    intro c member
    have digit := isDigit_of_mem_toString member
    apply Bool.eq_false_iff.2
    intro special
    simp only [Audit.needsQuotes, Bool.or_eq_true, beq_iff_eq] at special
    rcases special with ((rfl | rfl) | rfl) | rfl <;> exact absurd digit (by decide)
  rw [Audit.field, if_neg]
  intro some
  obtain ⟨c, member, special⟩ := List.any_eq_true.1 some
  rw [plain c member] at special
  cases special

/-- The fields of an event. -/
def fieldsOf (event : Audit.Event) : List String :=
  [toString event.run, toString event.step, event.label]

/-- **An event is read from its row.** -/
theorem Scan.run_row (records : List (List String)) (event : Audit.Event) (rest : List Char) :
    (between records []).run (event.row.toList ++ rest) =
      (between (records ++ [fieldsOf event]) []).run rest := by
  have row : event.row.toList ++ rest =
      (Audit.field (toString event.run)).toList ++ ',' ::
        ((Audit.field (toString event.step)).toList ++ ',' ::
          ((Audit.field event.label).toList ++ '\n' :: rest)) := by
    rw [field_toString, field_toString, Audit.Event.row]
    simp only [String.toList_append, List.append_assoc]
    rfl
  rw [row, run_comma, run_comma, run_lineFeed]
  rfl

theorem Scan.run_rows (records : List (List String)) (events : List Audit.Event) :
    (between records []).run (String.join (events.map Audit.Event.row)).toList =
      some (between (records ++ events.map fieldsOf) []) := by
  induction events generalizing records with
  | nil => simp [run, String.join]
  | cons event events ih =>
    have first : (String.join ((event :: events).map Audit.Event.row)).toList =
        event.row.toList ++ (String.join (events.map Audit.Event.row)).toList := by
      rw [List.map_cons, String.join_cons, String.toList_append]
    rw [first, run_row, ih, List.map_cons, List.append_assoc, List.singleton_append]

/-- The fields of the header. -/
def headerFields : List String := ["run_id", "step", "event_type"]

/-- **A table is read as its header and its events**, in their order. -/
theorem read?_table (traces : List Trace) :
    read? (Audit.table traces).2 = some (headerFields :: (Audit.events traces).map fieldsOf) := by
  have header : (Audit.header ++ "\n").toList =
      (Audit.field "run_id").toList ++ ',' :: ((Audit.field "step").toList ++ ',' ::
        ((Audit.field "event_type").toList ++ '\n' :: [])) := by decide +kernel
  have table : (Audit.table traces).2.toList =
      (Audit.field "run_id").toList ++ ',' :: ((Audit.field "step").toList ++ ',' ::
        ((Audit.field "event_type").toList ++ '\n' ::
          (String.join ((Audit.events traces).map Audit.Event.row)).toList)) := by
    rw [Audit.table, String.toList_append, header]
    simp only [List.append_assoc, List.cons_append, List.nil_append]
  have start : ({} : Scan) = .between [] [] := rfl
  rw [read?, table, start, Scan.run_comma, Scan.run_comma, Scan.run_lineFeed, Scan.run_rows]
  rfl

/-- The label holds a comma, a quotation mark and the end of a line. -/
example :
    Audit.Event.row { run := 0, step := 12, label := "a, \"b\"\n" } =
        "0,12,\"a, \"\"b\"\"\n\"\n" ∧
      read? "0,12,\"a, \"\"b\"\"\n\"\n" = some [["0", "12", "a, \"b\"\n"]] := by
  decide +kernel

/-! ## Events -/

/-- The records of a table below its header: one for every label that has fired, in the order of
the traces, their steps and the labels of a step. Traces are counted from zero. -/
def recordsOf (traces : List Trace) : List (List String) :=
  traces.zipIdx.flatMap fun entry => entry.1.steps.flatMap fun step =>
    step.firedLabels.map fun label => [toString entry.2, toString step.step, label]

theorem map_fieldsOf_events (traces : List Trace) :
    (Audit.events traces).map fieldsOf = recordsOf traces := by
  simp only [Audit.events, Audit.eventsOf, recordsOf, List.map_flatMap, List.map_map,
    Function.comp_def, fieldsOf]

/-- The number that a field shows in decimal digits. -/
def numberOf? (field : String) : Option Nat :=
  if field ≠ "" ∧ field.toList.all Char.isDigit = true then
    some (Nat.ofDigitChars 10 field.toList 0)
  else none

/-- The event that the fields of a record tell. -/
def eventOf? : List String → Option Audit.Event
  | [run, step, label] => do return { run := ← numberOf? run, step := ← numberOf? step, label }
  | _ => none

/-- Reads a table with this header as a list of events. -/
def events? (table : String) : Option (List Audit.Event) :=
  match read? table with
  | some (header :: records) => if header = headerFields then records.mapM eventOf? else none
  | _ => none

theorem numberOf?_toString (number : Nat) : numberOf? (toString number) = some number := by
  have digits : (toString number).toList = Nat.toDigits 10 number := by
    rw [Nat.toString_eq_repr, Nat.toList_repr]
  have nonempty : toString number ≠ "" := by
    intro empty
    rw [empty] at digits
    exact Nat.toDigits_ne_nil digits.symm
  have all : (toString number).toList.all Char.isDigit = true := by
    rw [List.all_eq_true]
    exact fun _ => isDigit_of_mem_toString
  rw [numberOf?, if_pos ⟨nonempty, all⟩, digits, Nat.ofDigitChars_ten_toDigits]

theorem eventOf?_fieldsOf (event : Audit.Event) : eventOf? (fieldsOf event) = some event := by
  simp only [fieldsOf, eventOf?, numberOf?_toString]
  rfl

theorem mapM_eventOf? (events : List Audit.Event) :
    (events.map fieldsOf).mapM eventOf? = some events := by
  induction events with
  | nil => rfl
  | cons event events ih =>
    rw [List.map_cons, List.mapM_cons, eventOf?_fieldsOf, ih]
    rfl

/-- The events are read from a table as they are. -/
theorem events?_table (traces : List Trace) :
    events? (Audit.table traces).2 = some (Audit.events traces) := by
  simp only [events?, read?_table, if_true, mapM_eventOf?]

/-- **A table tells the events of the traces and nothing else.** It is read as the header and one
record for every label that has fired, of which there are as many as were counted when it was
written. Tables are the same only if the events are. -/
theorem table_tells (traces : List Trace) :
    read? (Audit.table traces).2 = some (headerFields :: recordsOf traces) ∧
      (recordsOf traces).length = (Audit.table traces).1 ∧
      events? (Audit.table traces).2 = some (Audit.events traces) ∧
      ∀ other : List Trace, (Audit.table other).2 = (Audit.table traces).2 ↔
        Audit.events other = Audit.events traces := by
  refine ⟨?_, ?_, events?_table traces, fun other => ⟨fun same => ?_, fun same => ?_⟩⟩
  · rw [read?_table, map_fieldsOf_events]
  · rw [← map_fieldsOf_events, Audit.table, List.length_map, List.length_map]
  · have read := events?_table other
    rw [same, events?_table] at read
    exact (Option.some.inj read).symm
  · rw [Audit.table, Audit.table, same]

end EventNet.Csv
