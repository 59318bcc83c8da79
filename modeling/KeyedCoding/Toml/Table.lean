import KeyedCoding.Number.Binary

/-!
# Tables of a TOML document

A document is a table. Headers and dotted keys make tables below it, and what made a table decides
whether it may be added to later on.

## Main definitions

* `Toml.Value`: a value of a document.
* `Toml.Table.put`: put a value under a dotted key.
* `Toml.Table.openTable`, `Toml.Table.openElement`: make the table that a header names.
-/

namespace KeyedCoding.Toml

/-- What made a table. -/
inductive TableForm where
  /-- The header of the table, or for the whole document nothing. -/
  | headed
  /-- A header of a table below it. -/
  | implied
  /-- A dotted key. -/
  | dotted
  /-- Braces in the place of a value. -/
  | inline
  deriving DecidableEq, Repr

/-- A value of a document. -/
inductive Value where
  | string (value : String)
  | integer (value : Int)
  /-- A number with a fraction, unless it is beyond the range of 64 bits. -/
  | float (value : Option FloatValue)
  | boolean (value : Bool)
  /-- A date, a time, or both. -/
  | dateTime
  | array (elements : List Value)
  | table (form : TableForm) (entries : List (String × Value))
  /-- Tables with one header in double brackets each, of which the last one is still open. -/
  | tables (closed : List (List (String × Value))) (last : List (String × Value))

/-- The entries of a table in the order of their keys' first use. -/
abbrev Table := List (String × Value)

namespace Table

/-- Change what is under a key, or put something there. -/
def update (key : String) (change : Option Value → Option Value) : Table → Option Table
  | [] => (change none).map fun value => [(key, value)]
  | (key', value) :: rest =>
    if key = key' then (change (some value)).map fun value => (key', value) :: rest
    else (update key change rest).map ((key', value) :: ·)

/-- Change a table that is reached over a key of a header, or of a dotted key if `dotted`. A table
with braces stays as it is, and a dotted key reaches no table with a header. -/
def reach (dotted : Bool) (change : TableForm → Table → Option Table) :
    Option Value → Option Value
  | none =>
    let form := if dotted then .dotted else .implied
    (change form []).map (.table form)
  | some (.table form entries) =>
    if form = .inline ∨ (dotted ∧ form = .headed) then none
    else (change form entries).map (.table form)
  | some (.tables closed last) => (change .headed last).map (.tables closed)
  | some _ => none

/-- Change the table at the end of a path. -/
def descend (dotted : Bool) (change : TableForm → Table → Option Table) :
    List String → TableForm → Table → Option Table
  | [], form, entries => change form entries
  | key :: path, _, entries => update key (reach dotted (descend dotted change path)) entries

/-- Put a value under a key that is not there yet. -/
def putNew (key : String) (value : Value) (entries : Table) : Option Table :=
  update key (fun
    | none => some value
    | some _ => none) entries

/-- Put a value under a dotted key, given as a path and its last key. The table at the end of the
path must have been made by dotted keys. -/
def put (path : List String) (key : String) (value : Value) (entries : Table) : Option Table :=
  descend true (fun form entries =>
    if (form == .dotted) == path.isEmpty then none else putNew key value entries)
    path .headed entries

/-- Put a value under a dotted key of the table that a header names. -/
def putBelow (header path : List String) (key : String) (value : Value) (entries : Table) :
    Option Table :=
  descend false (fun _ entries => put path key value entries) header .headed entries

/-- Make the table that a header names. It may be there already only because of the headers of
tables below it. -/
def openTable (path : List String) (key : String) (entries : Table) : Option Table :=
  descend false (fun _ entries =>
    update key (fun
      | none => some (.table .headed [])
      | some (.table .implied entries) => some (.table .headed entries)
      | some _ => none) entries) path .headed entries

/-- Make the next of the tables that a header in double brackets names. -/
def openElement (path : List String) (key : String) (entries : Table) : Option Table :=
  descend false (fun _ entries =>
    update key (fun
      | none => some (.tables [] [])
      | some (.tables closed last) => some (.tables (closed ++ [last]) [])
      | some _ => none) entries) path .headed entries

end Table

end KeyedCoding.Toml
