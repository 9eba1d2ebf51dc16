/-!
# Records read field by field

A record in a document is a list of named fields in any order. `Fields` describes how
its fields are gathered: what has been gathered so far, what a field adds to it, and
the record that comes out at the end. Descriptions of single fields are joined to
descriptions of records.

A field that is not described is none of the record's business. A field may come once;
it must come unless its description says otherwise. Records may also be written as
lists of their values in the order of the description.

The same descriptions serve every document format: `ρ` is what the format holds where a
value should be, and `ε` is its kind of error.
-/

set_option autoImplicit false

namespace EventNet

/-- A way to gather the fields of a record. -/
structure Fields (ρ ε α : Type) where
  /-- What has been gathered. -/
  Gathered : Type
  /-- Nothing has been gathered. -/
  start : Gathered
  /-- Takes in a field, if the record has a field of this name. -/
  accept : String → ρ → Gathered → Option (Except ε Gathered)
  /-- The record from all its fields. -/
  finish : Gathered → Except ε α
  /-- The record from the first values of a list, and the values that are left; the error
  given is that of a list without further values. -/
  positional : Option ε → List ρ → Except ε (α × List ρ)

namespace Fields

variable {ρ ε α β : Type}

/-- A single field. `unfit` is the error of a record that has it twice or not at all;
`missing` is the value of the field if it does not come, and `absent` if the list ends. -/
def single (unfit : ε) (missing absent : Option α) (name : String) (decode : ρ → Except ε α) :
    Fields ρ ε α where
  Gathered := Option α
  start := none
  accept field value gathered :=
    if field = name then
      match gathered with
      | some _ => some (.error unfit)
      | none => some ((decode value).map some)
    else none
  finish gathered :=
    match gathered.or missing with
    | some value => .ok value
    | none => .error unfit
  positional cut values :=
    match values, cut with
    | value :: values, _ => (decode value).map fun value => (value, values)
    | [], some problem => .error problem
    | [], none =>
      match absent with
      | some value => .ok (value, [])
      | none => .error unfit

/-- The fields of two descriptions together. -/
def both (first : Fields ρ ε α) (second : Fields ρ ε β) : Fields ρ ε (α × β) where
  Gathered := first.Gathered × second.Gathered
  start := (first.start, second.start)
  accept field value gathered :=
    match first.accept field value gathered.1 with
    | some result => some (result.map fun more => (more, gathered.2))
    | none =>
      (second.accept field value gathered.2).map fun result =>
        result.map fun more => (gathered.1, more)
  finish gathered := do
    let left ← first.finish gathered.1
    let right ← second.finish gathered.2
    return (left, right)
  positional cut values := do
    let (left, values) ← first.positional cut values
    let (right, values) ← second.positional cut values
    return ((left, right), values)

/-- The record made from what the fields give. -/
def map (fields : Fields ρ ε α) (make : α → β) : Fields ρ ε β where
  Gathered := fields.Gathered
  start := fields.start
  accept := fields.accept
  finish gathered := (fields.finish gathered).map make
  positional cut values :=
    (fields.positional cut values).map fun (value, values) => (make value, values)

end Fields

end EventNet
