/-!
Shapes of records: which fields a record has, and how it is built from the values that are found for
them. A shape is written once for every notation that records are read from; the notation says how a
value is decoded and how the fields of a record are found.
-/

namespace Turnstile

/-- Why a value could not be read: the text breaks the grammar of its notation, or the value has
another shape. -/
inductive Misread
  | malformed
  | mismatch
deriving DecidableEq, Repr

/-- A reader of values of one type from a notation. -/
abbrev Decoder (ω α : Type) := ω → Except Misread α

/-- What a field needs of the document: its name, the check made when it is met, and whether it may
be missing where fields are found by their places. -/
structure FieldRule (ω : Type) where
  name : String
  check : Decoder ω Unit
  optional : Bool

/-- The shape of a record: the rules of its fields in order, and the record built of the values
found. -/
structure Schema (ω α : Type) where
  rules : List (FieldRule ω)
  build : (String → Option ω) → Except Misread α

namespace Schema

variable {ω α : Type}

instance : Functor (Schema ω) where
  map f fields := ⟨fields.rules, fun found => (fields.build found).map f⟩

instance : Pure (Schema ω) where
  pure a := ⟨[], fun _ => .ok a⟩

instance : Seq (Schema ω) where
  seq first second :=
    ⟨first.rules ++ (second ()).rules, fun found =>
      (first.build found).bind fun f => ((second ()).build found).map f⟩

/-- One field, and what stands for it when it is missing. -/
def field (name : String) (decode : Decoder ω α) (missing : Except Misread α) (optional : Bool) :
    Schema ω α :=
  { rules := [⟨name, fun w => (decode w).map fun _ => (), optional⟩]
    build := fun found => (found name).elim missing decode }

/-- A field that must be there. -/
def required (name : String) (decode : Decoder ω α) : Schema ω α :=
  field name decode (.error .mismatch) false

/-- A field with a value for the case that it is missing. -/
def withDefault (name : String) (decode : Decoder ω α) (value : α) : Schema ω α :=
  field name decode (.ok value) true

end Schema

/-! ## Answers of readers -/

section

variable {α β ε : Type} {first : Except ε α} {b : β} {e : ε}

/-- Two steps in a row succeed if the first one does and the second one on its answer. -/
theorem bind_eq_ok_iff {next : α → Except ε β} :
    first.bind next = .ok b ↔ ∃ a, first = .ok a ∧ next a = .ok b := by
  cases first <;> simp [Except.bind]

/-- Two steps in a row fail if the first one does, or the second one on its answer. -/
theorem bind_eq_error_iff {next : α → Except ε β} :
    first.bind next = .error e ↔ first = .error e ∨ ∃ a, first = .ok a ∧ next a = .error e := by
  cases first <;> simp [Except.bind]

theorem map_eq_ok_iff {f : α → β} : first.map f = .ok b ↔ ∃ a, first = .ok a ∧ f a = b := by
  cases first <;> simp [Except.map]

theorem map_eq_error_iff {f : α → β} : first.map f = .error e ↔ first = .error e := by
  cases first <;> simp [Except.map]

end

end Turnstile
