/-!
# TOML documents

A document is a table of keys and values. It is written in sections: assignments put
values into the table of their section, and headers open a table for the section that
follows. A dotted key leads through tables, which are made on the way.

Nothing may be defined twice. A table remembers how it came about, because that decides
who may still add to it: an inline table is complete; a table made by a dotted key can
be added to by further dotted keys, but not be opened by a header; a table made on the
way to the table of a header can still be opened once, and dotted keys may lead through
it but not end in it.
-/

set_option autoImplicit false

namespace EventNet

/-- How a table has come about. -/
inductive Toml.Origin where
  /-- Written between braces. -/
  | inline
  /-- Opened by a header. -/
  | opened
  /-- Made on the way of a dotted key. -/
  | dotted
  /-- Made on the way to the table of a header. -/
  | passed
  deriving DecidableEq

/-- A TOML value. Floats and times are kept as they are written. -/
inductive Toml where
  | string (text : String)
  | integer (value : Int)
  | float (literal : String)
  | bool (value : Bool)
  | time (literal : String)
  | array (items : List Toml)
  | table (origin : Toml.Origin) (entries : List (String × Toml))
  /-- Tables opened by headers of the same name; the last one is open. -/
  | tables (elements : List (List (String × Toml)))

namespace Toml

/-- The entries of a table, in the order in which they were made. -/
abbrev Entries := List (String × Toml)

/-- Changes the value of a key, or makes a last entry from no value. -/
def alter? (key : String) (change : Option Toml → Option Toml) : Entries → Option Entries
  | [] => (change none).map fun value => [(key, value)]
  | (name, before) :: entries =>
    if name = key then (change (some before)).map fun value => (name, value) :: entries
    else (alter? key change entries).map ((name, before) :: ·)

/-- Changes the last element of a list that has one. -/
def alterLast? {α : Type} (change : α → Option α) : List α → Option (List α)
  | [] => none
  | [last] => (change last).map fun last => [last]
  | element :: elements => (alterLast? change elements).map (element :: ·)

/-- Puts a value under a dotted key, which must be new. The tables on the way may have been
made by dotted keys or on the way to a header; the last one, which gets the value, must
have been made by dotted keys. -/
def assign? (value : Toml) : (path : List String) → Entries → Option Entries
  | [], _ => none
  | [key], entries =>
    alter? key (fun
      | none => some value
      | some _ => none) entries
  | key :: path, entries =>
    alter? key (fun
      | none => (assign? value path []).map (.table .dotted)
      | some (.table .dotted inner) => (assign? value path inner).map (.table .dotted)
      | some (.table .passed inner) =>
        if path.length = 1 then none else (assign? value path inner).map (.table .passed)
      | some (.tables elements) =>
        if path.length = 1 then none else (alterLast? (assign? value path) elements).map .tables
      | some _ => none) entries

/-- Changes the entries of the table at a path, through tables of any origin but inline
ones. Tables that do not exist are made on the way; `change` gets the value at the end. -/
def alterAt? (change : Option Toml → Option Toml) : (path : List String) → Entries → Option Entries
  | [], _ => none
  | [key], entries => alter? key change entries
  | key :: path, entries =>
    alter? key (fun
      | none => (alterAt? change path []).map (.table .passed)
      | some (.table .inline _) => none
      | some (.table origin inner) => (alterAt? change path inner).map (.table origin)
      | some (.tables elements) => (alterLast? (alterAt? change path) elements).map .tables
      | some _ => none) entries

/-- Opens a table by a header. -/
def open? : List String → Entries → Option Entries :=
  alterAt? fun
    | none => some (.table .opened [])
    | some (.table .passed entries) => some (.table .opened entries)
    | some _ => none

/-- Opens a further table of a list of tables by a header. -/
def openElement? : List String → Entries → Option Entries :=
  alterAt? fun
    | none => some (.tables [[]])
    | some (.tables elements) => some (.tables (elements ++ [[]]))
    | some _ => none

/-- Changes the entries of the table that the latest header at a path has opened. -/
def alterOpened? (change : Entries → Option Entries) : List String → Entries → Option Entries
  | [] => change
  | key :: path =>
    alterAt? (fun
      | some (.table .opened entries) => (change entries).map (.table .opened)
      | some (.tables elements) => (alterLast? change elements).map .tables
      | _ => none) (key :: path)

end Toml

end EventNet
