import Turnstile.Json.Written
import Turnstile.Schema

/-!
Decoders: readers of typed values from written JSON. A record is read from an object, whose members
may stand in any order and may be unknown, or from an array of its fields in order. Faults and
mismatches are found in the order of the document; a missing field is found last.
-/

namespace Turnstile.Json

/-- A reader of values of one type. -/
abbrev Decoder (α : Type) := Turnstile.Decoder Written α

namespace Decoder

/-! ## Scalars -/

/-- The answer to a value of the wrong shape. -/
def refuse {α : Type} : Decoder α
  | .unfit | .fault => .error .malformed
  | _ => .error .mismatch

/-- A string. -/
def string : Decoder String
  | .string s => .ok s
  | w => refuse w

/-- A number. -/
def number : Decoder Number
  | .number n => .ok n
  | w => refuse w

/-- An integer below a bound. -/
def natBelow (bound : Nat) : Decoder Nat
  | .number (.int i) => if 0 ≤ i ∧ i < bound then .ok i.toNat else .error .mismatch
  | w => refuse w

/-- A floating-point number; an integer is rounded to one. -/
def double : Decoder Double
  | .number (.double d) => .ok d
  | .number (.int i) => (Double.ofInt? i).elim (.error .mismatch) .ok
  | w => refuse w

/-- A value or null. -/
def option {α : Type} (decode : Decoder α) : Decoder (Option α)
  | .null => .ok none
  | w => (decode w).map some

/-- A decoded text, if it has a meaning. -/
def parsed {α : Type} (read? : String → Option α) : Decoder α := fun w =>
  (string w).bind fun s => (read? s).elim (.error .mismatch) .ok

/-! ## Collections -/

/-- The items of an array. -/
def list {α : Type} (decode : Decoder α) : Decoder (List α)
  | .array items => items.mapM decode
  | w => refuse w

/-- The members of an object, in order. -/
def members {α : Type} (decode : Decoder α) : Decoder (List (String × α))
  | .object members => members.mapM fun (name?, w) =>
      match name? with
      | none => .error .malformed
      | some name => (decode w).map (name, ·)
  | w => refuse w

/-- One of a list of named values: its name, or an object whose one member has that name and the
value null. -/
def choice {α : Type} (choices : List (String × α)) : Decoder α
  | .string s => (choices.lookup s).elim (.error .mismatch) .ok
  | .object ((some name, value) :: rest) =>
    match choices.lookup name, value, rest with
    | some a, .null, [] => .ok a
    | some _, .unfit, _ | some _, .fault, _ => .error .malformed
    | some _, .null, _ => .error .malformed
    | _, _, _ => .error .mismatch
  | .object _ => .error .malformed
  | w => refuse w

mutual

/-- Any value. -/
def json : Decoder Json
  | .null => .ok .null
  | .bool b => .ok (.bool b)
  | .number n => .ok (.number n)
  | .string s => .ok (.string s)
  | .array items => (jsonItems items).map .array
  | .object members => (jsonMembers members).map Json.ofMembers
  | .unfit => .error .malformed
  | .fault => .error .malformed

/-- Items of any value. -/
def jsonItems : List Written → Except Misread (List Json)
  | [] => .ok []
  | w :: rest => (json w).bind fun j => (jsonItems rest).map (j :: ·)

/-- Members of any value. -/
def jsonMembers : List (Option String × Written) → Except Misread (List (String × Json))
  | [] => .ok []
  | (none, _) :: _ => .error .malformed
  | (some name, w) :: rest => (json w).bind fun j => (jsonMembers rest).map ((name, j) :: ·)

end

end Decoder

/-! ## Records -/

/-- The shape of a record in JSON. -/
abbrev Fields : Type → Type := Schema Written

namespace Fields

/-- A field that must be there. -/
def required {α : Type} (name : String) (decode : Decoder α) : Fields α :=
  Schema.required name decode

/-- A field with a value for the case that it is missing. -/
def withDefault {α : Type} (name : String) (decode : Decoder α) (value : α) : Fields α :=
  Schema.withDefault name decode value

/-- A field that may be missing or null. -/
def optional {α : Type} (name : String) (decode : Decoder α) : Fields (Option α) :=
  Schema.field name (Decoder.option decode) (.ok none) false

/-- The values of the known members, in document order. A known name may not be repeated; the value
of an unknown one is passed over. -/
def gather (rules : List (FieldRule Written)) :
    List (Option String × Written) → List (String × Written) →
      Except Misread (List (String × Written))
  | [], found => .ok found
  | (none, _) :: _, _ => .error .malformed
  | (some name, w) :: rest, found =>
    match rules.find? (·.name = name) with
    | none => if w.isSound then gather rules rest found else .error .malformed
    | some rule =>
      if found.any (·.1 = name) then .error .mismatch
      else (rule.check w).bind fun _ => gather rules rest ((name, w) :: found)

/-- The items of an array as values of the fields in order. -/
def lineUp : List (FieldRule Written) → List Written → Except Misread (List (String × Written))
  | [], [] => .ok []
  | [], _ :: _ => .error .malformed
  | rules, [] => if rules.all (·.optional) then .ok [] else .error .mismatch
  | rule :: rules, w :: rest =>
    (rule.check w).bind fun _ => (lineUp rules rest).map ((rule.name, w) :: ·)

/-- Reads a record. -/
def decode {α : Type} (fields : Fields α) : Decoder α
  | .object members =>
    (gather fields.rules members []).bind fun found => fields.build (found.lookup ·)
  | .array items =>
    (lineUp fields.rules items).bind fun found => fields.build (found.lookup ·)
  | w => Decoder.refuse w

end Fields

/-! ## Whole texts -/

/-- Reads the value at the start of a text; what follows it is not looked at. -/
def Decoder.decodeStart {α : Type} (decode : Decoder α) (text : String) : Except Misread α :=
  decode (Written.ofChars text.toList).1

/-- Reads a text that holds one value and nothing else. -/
def Decoder.decodeText {α : Type} (decode : Decoder α) (text : String) : Except Misread α :=
  let (value, closed) := Written.ofChars text.toList
  (decode value).bind fun a => if closed then .ok a else .error .malformed

/-- Reads a typed value from a JSON value. -/
def Decoder.decodeJson {α : Type} (decode : Decoder α) (j : Json) : Except Misread α :=
  decode (Written.ofJson j)

/-- The value that a text holds. -/
def read? (text : String) : Except Misread Json := Decoder.json.decodeText text

end Turnstile.Json
