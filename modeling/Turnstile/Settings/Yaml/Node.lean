import Turnstile.Settings.Value
import Turnstile.Text.Hex

/-!
Nodes of indented documents: scalars, lists, and maps, with names that stand for nodes before them.
-/

namespace Turnstile.Yaml

open Text

/-! ## Scalars -/

/-- A scalar. A floating-point number is kept as it was written; what its tag does not allow is
unfit. -/
inductive Scalar
  | nothing
  | flag (value : Bool)
  | int (value : Int)
  | real (written : String)
  | text (value : String)
  | unfit
deriving DecidableEq, Repr

/-- The digits of a number in some base, with an optional sign, as an integer of 64 bits. -/
def basedInteger? (base : Nat) (cs : List Char) : Option Int :=
  let (negative, digits) : Bool × List Char := match cs with
    | '-' :: cs => (true, cs)
    | '+' :: cs => (false, cs)
    | cs => (false, cs)
  let value? := if digits.isEmpty then none else digits.foldlM
    (fun n c => ((hexValue? c).filter (· < base)).map (n * base + ·)) 0
  (value?.map fun n => if negative then -(n : Int) else n).filter fun i =>
    -(Nat.pow 2 63 : Int) ≤ i ∧ i < (Nat.pow 2 63 : Int)

/-- The words for infinities and for what is no number. -/
def specialReals : List String :=
  [".inf", ".Inf", ".INF", "+.inf", "+.Inf", "+.INF", "-.inf", "-.Inf", "-.INF", ".nan", ".NaN",
   ".NAN"]

/-- Whether a text is a floating-point number. -/
def isReal (s : String) : Bool := specialReals.contains s || (decimalParts? s.toList).isSome

namespace Scalar

/-- The scalar of a text without quotes and without a tag. -/
def ofPlain (s : String) : Scalar :=
  let cs := s.toList
  let based? := match cs with
    | '0' :: 'x' :: cs => basedInteger? 16 cs
    | '0' :: 'o' :: cs => basedInteger? 8 cs
    | '+' :: cs => basedInteger? 10 cs
    | _ => none
  match based? with
  | some i => .int i
  | none =>
    if s = "" ∨ s = "~" ∨ s = "null" then .nothing
    else if s = "true" then .flag true
    else if s = "false" then .flag false
    else match basedInteger? 10 cs with
    | some i => .int i
    | none => if isReal s then .real s else .text s

/-- The scalar of a text without quotes whose tag is one of the common ones. -/
def ofTagged (tag s : String) : Scalar :=
  if tag = "bool" then
    if s = "true" then .flag true else if s = "false" then .flag false else .unfit
  else if tag = "int" then (basedInteger? 10 s.toList).elim .unfit .int
  else if tag = "float" then if isReal s then .real s else .unfit
  else if tag = "null" then if s = "~" ∨ s = "null" then .nothing else .unfit
  else .text s

end Scalar

/-! ## Nodes -/

/-- A node. An anchor gives a name to a node, for which the name stands behind it. -/
inductive Node
  | scalar (value : Scalar)
  | list (items : List Node)
  | map (pairs : List (Node × Node))
  | anchor (name : String) (node : Node)
  | alias (name : String)

namespace Node

instance : Inhabited Node := ⟨.scalar .nothing⟩

/-- The nodes that names stand for. -/
abbrev Names := List (String × Node)

/-- The scalar of a key; lists and maps are none. -/
def keyScalar? : Node → Option Scalar
  | .scalar value => some value
  | _ => none

/-- Whether no scalar occurs twice among the keys of a map. -/
def distinctKeys (pairs : List (Node × Node)) : Bool :=
  let keys := pairs.filterMap fun (pair : Node × Node) => pair.1.keyScalar?
  keys.eraseDups.length = keys.length

mutual

/-- Puts the nodes that names stand for in their places. Names must be known, and the keys of a map
must be distinct. -/
def resolve (names : Names) : Node → Option (Node × Names)
  | .scalar value => some (.scalar value, names)
  | .list items => (resolveItems names items).map fun (items, names) => (.list items, names)
  | .map pairs => (resolvePairs names pairs).bind fun (pairs, names) =>
    if distinctKeys pairs then some (.map pairs, names) else none
  | .anchor name node => (resolve names node).map fun (node, names) => (node, (name, node) :: names)
  | .alias name => (names.lookup name).map (·, names)

/-- The same for the items of a list. -/
def resolveItems (names : Names) : List Node → Option (List Node × Names)
  | [] => some ([], names)
  | item :: items => (resolve names item).bind fun (item, names) =>
    (resolveItems names items).map fun (items, names) => (item :: items, names)

/-- The same for the pairs of a map. -/
def resolvePairs (names : Names) : List (Node × Node) → Option (List (Node × Node) × Names)
  | [] => some ([], names)
  | (key, value) :: pairs => (resolve names key).bind fun (key, names) =>
    (resolve names value).bind fun (value, names) =>
      (resolvePairs names pairs).map fun (pairs, names) => ((key, value) :: pairs, names)

end

/-! ## Settings -/

/-- Why a node is no setting. -/
inductive Fault
  /-- a number cannot be read -/
  | number
  /-- a key is neither a text nor an integer -/
  | key
deriving DecidableEq, Repr

/-- The setting of a scalar. An infinity and what is no number cannot be read. -/
def ofScalar : Scalar → Except Fault Setting
  | .nothing | .unfit => .ok .absent
  | .flag b => .ok (.flag b)
  | .int i => .ok (.int i)
  | .text s => .ok (.text s)
  | .real s => match decimalParts? s.toList with
    | some (negative, digits, exponent) =>
      .ok (.real (.ofScientific negative digits exponent))
    | none => .error .number

/-- The name of a key. -/
def keyName : Node → Except Fault String
  | .scalar (.text s) => .ok s
  | .scalar (.int i) => .ok (writeInt i)
  | _ => .error .key

mutual

/-- The setting of a node. -/
def toSetting : Node → Except Fault Setting
  | .scalar value => ofScalar value
  | .list items => (settingsOf items).map .list
  | .map pairs => (entriesOf pairs).map fun entries => .table (Table.ofList entries).entries
  | .anchor _ node => node.toSetting
  | .alias _ => .ok .absent

/-- The settings of items. -/
def settingsOf : List Node → Except Fault (List Setting)
  | [] => .ok []
  | item :: items => item.toSetting.bind fun s => (settingsOf items).map (s :: ·)

/-- The entries of pairs. -/
def entriesOf : List (Node × Node) → Except Fault (List (String × Setting))
  | [] => .ok []
  | (key, value) :: pairs => (keyName key).bind fun name => value.toSetting.bind fun s =>
    (entriesOf pairs).map ((name, s) :: ·)

end

end Node

end Turnstile.Yaml
