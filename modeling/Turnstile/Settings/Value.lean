import Turnstile.Json.Basic
import Turnstile.Number.Extended
import Turnstile.Schema
import Turnstile.Table
import Turnstile.Text.Lower

/-!
Values of settings sources, and how one source is laid over another: tables are merged entry by
entry, under names in lower case, anything else is replaced.
-/

namespace Turnstile

/-- A value of a settings source. -/
inductive Setting
  | absent
  | flag (value : Bool)
  | int (value : Int)
  | real (value : Extended)
  | text (value : String)
  | list (items : List Setting)
  | table (entries : List (String × Setting))

namespace Setting

instance : Inhabited Setting := ⟨.absent⟩

/-- The table without entries. -/
def empty : Setting := .table []

/-- The entries of a table; another value has none. -/
def entries : Setting → List (String × Setting)
  | .table entries => entries
  | _ => []

/-- The items of a list; another value has none. -/
def items : Setting → List Setting
  | .list items => items
  | _ => []

mutual

/-- Lays a value over another. -/
def overlay (base : Setting) : Setting → Setting
  | .table entries => overlayEntries base entries
  | value => value

/-- Lays entries, whose names are lowered, over a value, which becomes a table with the first of
them. -/
def overlayEntries (base : Setting) : List (String × Setting) → Setting
  | [] => base
  | (name, value) :: rest =>
    let name := Text.lower name
    let inner := overlay ((Table.lookupIn name base.entries).getD empty) value
    overlayEntries (.table (Table.insertIn name inner base.entries)) rest

end

mutual

/-- A JSON value as a setting: an integer beyond the signed ones of 64 bits becomes a floating-point
number. -/
def ofJson : Json → Setting
  | .null => .absent
  | .bool b => .flag b
  | .number (.int i) =>
    if i < (Nat.pow 2 63 : Int) then .int i else .real (.ofScientific false i.toNat 0)
  | .number (.double d) => .real (.finite d)
  | .string s => .text s
  | .array items => .list (ofItems items)
  | .object members => .table (ofMembers members)

/-- JSON items as settings. -/
def ofItems : List Json → List Setting
  | [] => []
  | j :: rest => ofJson j :: ofItems rest

/-- JSON members as settings. -/
def ofMembers : List (String × Json) → List (String × Setting)
  | [] => []
  | (name, j) :: rest => (name, ofJson j) :: ofMembers rest

end

end Setting

end Turnstile
