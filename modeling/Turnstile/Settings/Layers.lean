import Turnstile.Fault
import Turnstile.Json.Decode
import Turnstile.Settings.Basic
import Turnstile.Settings.Files
import Turnstile.Settings.Path

/-!
Settings from layers: files with defaults, files with local values, and the environment. A later
layer wins field by field, and what it does not mention is kept. In a layer texts, numbers and truth
values stand in for each other.
-/

namespace Turnstile.Settings

/-! ## The dialect of the layers -/

/-- A text; numbers and truth values are written out. -/
def looseText : Decoder Setting String
  | .text s => .ok s
  | .flag b => .ok (if b then "true" else "false")
  | .int i => .ok (Text.writeInt i)
  | .real x => .ok x.text
  | _ => .error .mismatch

/-- The number that a text stands for: a word for a truth value, or a numeral. -/
def numberOfText? (s : String) : Option Nat :=
  let lower := Text.lower s
  if ["true", "on", "yes"].contains lower then some 1
  else if ["false", "off", "no"].contains lower then some 0
  else Text.readBelow? (Nat.pow 2 64) s

/-- The number of 64 bits that a value stands for: texts are read, truth values count as one and
zero, and fractions are rounded. -/
def numberOf? : Setting → Option Nat
  | .text s => numberOfText? s
  | .flag b => some (if b then 1 else 0)
  | .int i => if 0 ≤ i then some i.toNat else none
  | .real x => some (x.toNat (Nat.pow 2 64 - 1))
  | _ => none

/-- A number below a bound. -/
def looseNat (bound : Nat) : Decoder Setting Nat := fun w =>
  ((numberOf? w).filter (· < bound)).elim (.error .mismatch) .ok

/-- One of a list of named values, in any case of its letters: its name, or a table with one entry
of that name. -/
def looseChoice {α : Type} (choices : List (String × α)) : Decoder Setting α := fun w =>
  let name? := match w with
    | .text s => some s
    | .table [(name, _)] => some name
    | _ => none
  (name?.bind fun name => choices.lookup (Text.lower name)).elim (.error .mismatch) .ok

/-- A value that may be absent. -/
def looseOption {α : Type} (decode : Decoder Setting α) : Decoder Setting (Option α)
  | .absent => .ok none
  | w => (decode w).map some

/-- A record: a table, whose further entries do not count, or a list of the fields in order, whose
further items do not count. -/
def looseRecord {α : Type} (fields : Schema Setting α) : Decoder Setting α
  | .table entries => fields.build (Table.lookupIn · entries)
  | .list items =>
    let found := (fields.rules.map (·.name)).zip items
    fields.build (Table.lookupIn · found)
  | _ => .error .mismatch

/-- The entries of a table. -/
def looseEntries {α : Type} (decode : Decoder Setting α) : Decoder Setting (List (String × α))
  | .table entries => entries.mapM fun (name, w) => (decode w).map (name, ·)
  | _ => .error .mismatch

/-- The dialect of the layers. -/
def looseDialect : Dialect Setting where
  text := looseText
  natBelow := looseNat
  choice := looseChoice
  option := looseOption
  record := looseRecord
  entries := looseEntries

/-! ## Layers -/

/-- Lays the entries of a layer over a table, each at the path of its name. -/
def overlayEntries (root : Setting) (entries : List (String × Setting)) :
    Except LayerError Setting :=
  (entries.foldlM (fun root (entry : String × Setting) =>
    Setting.place entry.2 (Setting.pathOf entry.1.toList) root) root).mapError
      (.broken ∘ .misplaced)

/-- The mark in front of the names of variables that are settings. -/
def variablePrefix : String := "app__"

/-- A name with a point for every two underscores. -/
def pointed : List Char → List Char
  | '_' :: '_' :: rest => '.' :: pointed rest
  | c :: rest => c :: pointed rest
  | [] => []

/-- The name of the setting that a variable holds; one without the mark holds none. -/
def settingName? (name : String) : Option String :=
  let cs := (Text.lower name).toList
  let mark := variablePrefix.toList
  if mark.isPrefixOf cs then some (.ofList (pointed (cs.drop mark.length))) else none

/-- The entries of the environment. -/
def variableEntries (vars : List (String × String)) : List (String × Setting) :=
  vars.filterMap fun (name, text) => (settingName? name).map (·, .text text)

/-- The stems of the names of settings files, from the weakest to the strongest. -/
def stems : List String := ["default", "local"]

/-- The settings that files and the environment describe. -/
def ofLayers (files : List (String × String)) (vars : List (String × String)) :
    Except LayerError Settings := do
  let layers ← (stems.filterMap (FileFormat.choose? files)).mapM fun (format, text) =>
    format.read text
  let root ← (layers ++ [variableEntries vars]).foldlM overlayEntries Setting.empty
  match decoder looseDialect root with
  | .ok settings => return settings
  | .error _ => throw (.fault (.settings "a value has an unexpected type"))

end Turnstile.Settings
