import Turnstile.Settings.Value

/-!
Tables under construction. A table remembers how it came about, because a table that has a header of
its own, or that was written down as a value, cannot be reopened.
-/

namespace Turnstile.Toml

/-- How a table came about: by a header, on the way to the table of a header, or on the way to the
last of some keys with points between them. -/
inductive Origin
  | header
  | path
  | dotted
deriving DecidableEq, Repr

/-- A value, a table, or a list of tables with headers of their own. -/
inductive Node
  | value (value : Setting)
  | table (origin : Origin) (entries : List (String × Node))
  | tables (items : List (List (String × Node)))

/-- The entries of a table. -/
abbrev Entries := List (String × Node)

/-- Changes the last of some tables. -/
def changeLast (change : Entries → Option Entries) : List Entries → Option (List Entries)
  | [] => none
  | [last] => (change last).map ([·])
  | first :: rest => (changeLast change rest).map (first :: ·)

/-- Puts a value under keys with points between them. The tables on the way are made, unless they
are there and have no header; the last of them must have been made in this way. -/
def insert (value : Setting) : List String → Entries → Option Entries
  | [], _ => none
  | [key], entries =>
    match Table.lookupIn key entries with
    | some _ => none
    | none => some (Table.insertIn key (.value value) entries)
  | key :: path, entries =>
    let isLast := path.length = 1
    let node? : Option Node :=
      match Table.lookupIn key entries with
      | none => (insert value path []).map (.table .dotted)
      | some (.table .dotted inner) => (insert value path inner).map (.table .dotted)
      | some (.table .path inner) =>
        if isLast then none else (insert value path inner).map (.table .path)
      | some (.tables items) =>
        if isLast then none else (changeLast (insert value path) items).map .tables
      | _ => none
    node?.map fun node => Table.insertIn key node entries

/-- Changes the table at a path. The tables on the way are made if they are not there, and of a list
of tables the last is meant. -/
def descend (change : Entries → Option Entries) : List String → Entries → Option Entries
  | [], entries => change entries
  | key :: path, entries =>
    let node? : Option Node :=
      match Table.lookupIn key entries with
      | none => (descend change path []).map (.table .path)
      | some (.table origin inner) => (descend change path inner).map (.table origin)
      | some (.tables items) => (changeLast (descend change path) items).map .tables
      | some (.value _) => none
    node?.map fun node => Table.insertIn key node entries

/-- Opens the table of a header, which must be new or have been passed through only. -/
def openTable (key : String) (entries : Entries) : Option Entries :=
  match Table.lookupIn key entries with
  | none => some (Table.insertIn key (.table .header []) entries)
  | some (.table .path inner) => some (Table.insertIn key (.table .header inner) entries)
  | _ => none

/-- Opens one more table of a list of tables, which may be new. -/
def appendTable (key : String) (entries : Entries) : Option Entries :=
  match Table.lookupIn key entries with
  | none => some (Table.insertIn key (.tables [[]]) entries)
  | some (.tables items) => some (Table.insertIn key (.tables (items ++ [[]])) entries)
  | _ => none

mutual

/-- The value of a node. -/
def Node.toSetting : Node → Setting
  | .value value => value
  | .table _ entries => .table (settingsOf entries)
  | .tables items => .list (tablesOf items)

/-- The values of entries. -/
def settingsOf : List (String × Node) → List (String × Setting)
  | [] => []
  | (key, node) :: rest => (key, node.toSetting) :: settingsOf rest

/-- The values of tables. -/
def tablesOf : List (List (String × Node)) → List Setting
  | [] => []
  | entries :: rest => .table (settingsOf entries) :: tablesOf rest

end

end Turnstile.Toml
