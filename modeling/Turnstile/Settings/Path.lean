import Turnstile.Settings.Value
import Turnstile.Text.Numeral

/-!
Paths into settings: names with points between them, and places of lists in brackets, as in
`servers[0].host`. Main statement: a name without points and brackets is a path of one step
(`pathOf_of_plain`).
-/

namespace Turnstile.Setting

/-! ## Algorithm -/

/-- One step of a path: an entry of a table, or a place in a list, counted from its end if it is
negative. -/
inductive Step
  | entry (name : String)
  | item (index : Int)
deriving DecidableEq, Repr

/-- Whether a character may stand in a step. -/
def isStepChar (c : Char) : Bool := c.isAlphanum || c = '_' || c = '-' || c = ' '

/-- The steps behind the first one; every step needs fuel. -/
def readSteps? : Nat → List Char → Option (List Step)
  | _, [] => some []
  | 0, _ => none
  | fuel + 1, '.' :: rest =>
    let name := rest.takeWhile isStepChar
    if name.isEmpty then none
    else (readSteps? fuel (rest.dropWhile isStepChar)).map (.entry (.ofList name) :: ·)
  | fuel + 1, '[' :: rest =>
    let digits := rest.takeWhile (· ≠ ']')
    match rest.dropWhile (· ≠ ']') with
    | ']' :: rest =>
      if digits.head? = some '+' then none
      else (Text.readSigned? 64 (.ofList digits)).bind fun index =>
        (readSteps? fuel rest).map (.item index :: ·)
    | _ => none
  | _, _ => none

/-- The path that a name stands for. A name of another form is a single step. -/
def pathOf (name : List Char) : List Step :=
  let first := name.takeWhile isStepChar
  match if first.isEmpty then none else readSteps? name.length (name.dropWhile isStepChar) with
  | some steps => .entry (.ofList first) :: steps
  | none => [.entry (.ofList name)]

/-- Why a place in a list cannot be made: it lies before the start, or too far behind it. -/
inductive Misplaced
  | beforeStart
  | tooFar
deriving DecidableEq, Repr

namespace Misplaced

/-- What is said of such a place. -/
def message : Misplaced → String
  | .beforeStart => "attempt to subtract with overflow"
  | .tooFar => "capacity overflow"

end Misplaced

/-- The greatest place that a list is filled up to. -/
def greatestPlace : Nat := 1000000

/-- The place in a list of some length that an index stands for. -/
def placeOf (length : Nat) (index : Int) : Except Misplaced Nat :=
  let place := if 0 ≤ index then index else length + index
  if place < 0 then .error .beforeStart
  else if greatestPlace < place then .error .tooFar
  else .ok place.toNat

/-- Puts an item at a place of a list, which is filled up to it. -/
def putItem (items : List Setting) (place : Nat) (item : Setting) : List Setting :=
  (items ++ List.replicate (place + 1 - items.length) absent).set place item

/-- Lays a value over another at a path; what stands in the way is replaced. The name of the last
step is lowered. In a list the value takes the place of the item. -/
def place (value : Setting) : List Step → Setting → Except Misplaced Setting
  | [], base => .ok (base.overlay value)
  | .entry name :: steps, base =>
    let name := if steps.isEmpty then Text.lower name else name
    (place value steps ((Table.lookupIn name base.entries).getD empty)).map fun inner =>
      .table (Table.insertIn name inner base.entries)
  | .item index :: steps, base =>
    (placeOf base.items.length index).bind fun n =>
      let item := if steps.isEmpty then empty else base.items.getD n absent
      (place value steps item).map fun inner => .list (putItem base.items n inner)

/-! ## Lemmas -/

theorem pathOf_of_plain {name : List Char} (h : ∀ c ∈ name, isStepChar c = true) :
    pathOf name = [.entry (.ofList name)] := by
  have take : name.takeWhile isStepChar = name := by
    induction name with
    | nil => rfl
    | cons c cs ih =>
      rw [List.takeWhile_cons_of_pos (h c (by simp)), ih fun x hx => h x (by simp [hx])]
  have drop : name.dropWhile isStepChar = [] := by
    have whole := List.takeWhile_append_dropWhile (p := isStepChar) (l := name)
    rw [take] at whole
    simpa using whole
  by_cases empty : name = []
  · subst empty
    rfl
  · simp [pathOf, take, drop, empty, readSteps?]

end Turnstile.Setting
