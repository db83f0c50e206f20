import MemoryFabric.Configuration.Value

/-!
# Tables of a TOML document

The tables of a document while it is read.  Headers and dotted keys both open tables, and the notation says
which of them may add to a table that is there already: a header defines a table once, a dotted key passes
only through tables that no header has defined, and it adds to a table of dotted keys only.
-/

namespace MemoryFabric.Toml

set_option autoImplicit false

/-- How a table came about. -/
inductive TableOrigin where
  /-- It lies around a table with a header. -/
  | around
  | header
  | dottedKey
  deriving DecidableEq, Repr

/-- What a key stands for: a value, a table, or an array of tables of which the last is open. -/
inductive Item where
  | value (value : Value)
  | table (origin : TableOrigin) (entries : List (String × Item))
  | tables (closed : List Value) (entries : List (String × Item))
  deriving Repr

/-- The entries of a table. -/
abbrev Entries := List (String × Item)

mutual

/-- The value of an item. -/
def Item.toValue : Item → Value
  | .value value => value
  | .table _ entries => .ofEntries (valuesOf entries)
  | .tables closed entries => .list (closed ++ [.ofEntries (valuesOf entries)])

/-- The values of entries. -/
def valuesOf : List (String × Item) → List (String × Value)
  | [] => []
  | (key, item) :: rest => (key, item.toValue) :: valuesOf rest

end

namespace Entries

/-- The item at a key. -/
def find? (entries : Entries) (key : String) : Option Item :=
  (List.find? (fun entry => entry.1 = key) entries).map Prod.snd

/-- Put an item at a key that is there already. -/
def replace (entries : Entries) (key : String) (item : Item) : Entries :=
  entries.map fun entry => if entry.1 = key then (key, item) else entry

/-- Whether a table may be entered on the way to a table of the given origin. -/
def canEnter (goal origin : TableOrigin) : Bool := !(goal = .dottedKey && origin = .header)

/-- Change the table at a path; missing tables on the way get the given origin.  The change knows the
origin of the table that it is applied to; a table of an array counts as one with a header. -/
def editAt (goal : TableOrigin) (edit : TableOrigin → Entries → Option Entries) :
    List String → TableOrigin → Entries → Option Entries
  | [], origin, entries => edit origin entries
  | key :: path, _, entries =>
    match entries.find? key with
    | none =>
      (editAt goal edit path goal []).map fun inner => entries ++ [(key, .table goal inner)]
    | some (.table origin inner) =>
      if canEnter goal origin then
        (editAt goal edit path origin inner).map fun inner =>
          entries.replace key (.table origin inner)
      else none
    | some (.tables closed inner) =>
      (editAt goal edit path .header inner).map fun inner =>
        entries.replace key (.tables closed inner)
    | some (.value _) => none

/-- Add a value at a key that is free. -/
def addValue (key : String) (value : Value) (entries : Entries) : Option Entries :=
  if (entries.find? key).isSome then none else some (entries ++ [(key, .value value)])

/-- Define a table at a key that is free or lies around other tables. -/
def addTable (key : String) (entries : Entries) : Option Entries :=
  match entries.find? key with
  | none => some (entries ++ [(key, .table .header [])])
  | some (.table .around inner) => some (entries.replace key (.table .header inner))
  | some _ => none

/-- Add a table to an array of tables at a key. -/
def addArrayTable (key : String) (entries : Entries) : Option Entries :=
  match entries.find? key with
  | none => some (entries ++ [(key, .tables [] [])])
  | some (.tables closed inner) =>
    some (entries.replace key (.tables (closed ++ [.ofEntries (valuesOf inner)]) []))
  | some _ => none

/-- Add a value at a key, which may be dotted; the table that it leads to is then one of dotted keys. -/
def addDotted (path : List String) (value : Value) (entries : Entries) : Option Entries :=
  match path with
  | [] => none
  | [key] => addValue key value entries
  | _ =>
    let add (origin : TableOrigin) (inner : Entries) : Option Entries :=
      if origin = .dottedKey then addValue (path.getLast?.getD "") value inner else none
    editAt .dottedKey add path.dropLast .header entries

end Entries

end MemoryFabric.Toml
