import Turnstile.Proofs.Record.Wire

/-!
The flat form of any record read back. A flat form keeps whole milliseconds, no outcome of a lease,
and of a cached outcome without a payload the payload null; what it keeps of a record is `stored`.
Main statement: a record without floating-point numbers in its payload, nested at most 127 levels
deep, reads back as what is kept of it, and a payload nested more deeply is written but refused
(`Wire.decode_encode`).
-/

namespace Turnstile.Record

/-! ## What a flat form keeps -/

/-- What the flat form keeps of a record. -/
def stored (r : Record) : Record :=
  { r with
    status := r.outcome?.map (·.status)
    payload := r.outcome?.map (·.payload)
    createdAt := r.createdAt.floor
    expiresAt := r.expiresAt.floor }

/-- A record read back for another:

* `key`, `state`, `owner`, `outcome`: these are the same;
* `pending`: a lease has neither status nor payload;
* `completed`: a completed record has its status, and null for a payload that it had not;
* `created`, `ends`: the times are rounded down to the millisecond. -/
structure Survives (r s : Record) : Prop where
  key : s.key = r.key
  state : s.state = r.state
  owner : s.owner = r.owner
  outcome : s.outcome? = r.outcome?
  pending : r.state = .pending → s.status = none ∧ s.payload = none
  completed : r.state = .completed → s.status = r.status ∧ s.payload = some (r.payload.getD .null)
  created : IsGreatest (fun w : Instant => w.Whole ∧ w ≤ r.createdAt) s.createdAt
  ends : IsGreatest (fun w : Instant => w.Whole ∧ w ≤ r.expiresAt) s.expiresAt

variable {r : Record}

/-- A completed record with a status has an outcome, a lease has none. -/
theorem outcome?_of_pending (pending : r.state = .pending) : r.outcome? = none := by
  rw [outcome?, pending]

theorem outcome?_of_completed {status : UInt16} (completed : r.state = .completed)
    (given : r.status = some status) : r.outcome? = some ⟨status, r.payload.getD .null⟩ := by
  rw [outcome?, completed, given]

/-- The outcome is kept. -/
theorem outcome?_stored (r : Record) : r.stored.outcome? = r.outcome? := by
  cases state : r.state with
  | pending =>
    have stored : r.stored.state = .pending := state
    rw [outcome?_of_pending state, outcome?_of_pending stored]
  | completed =>
    cases status : r.status with
    | none => simp [stored, outcome?, state, status]
    | some status => simp [stored, outcome?, state, status]

/-- What is kept of a record is written as the record is. -/
theorem encode_stored (r : Record) : Wire.encode r.stored = Wire.encode r := by
  rw [Wire.encode, outcome?_stored]
  simp [Wire.encode, stored]

section

variable (created : r.createdAt.Leapless) (ends : r.expiresAt.Leapless)
  (status : r.state = .completed → r.status.isSome = true)
include created ends status

/-- What is kept of a record is the record, rounded down. -/
theorem survives_stored : r.Survives r.stored where
  key := rfl
  state := rfl
  owner := rfl
  outcome := outcome?_stored r
  pending pending := by simp [stored, outcome?_of_pending pending]
  completed completed := by
    obtain ⟨code, given⟩ := Option.isSome_iff_exists.1 (status completed)
    simp [stored, outcome?_of_completed completed given, given]
  created := created.isGreatest_floor
  ends := ends.isGreatest_floor

/-- What is kept of a record whose payload survives its text survives its flat form. -/
theorem portable_stored (payload : ∀ j ∈ r.payload, j.Portable) : r.stored.Portable := by
  have text : (r.payload.getD .null).Portable := by
    cases given : r.payload with
    | none => exact ⟨.null, rfl, Nat.zero_le _⟩
    | some j => exact payload j given
  obtain ⟨key, state, owner, code, payload, createdAt, expiresAt⟩ := r
  cases state with
  | pending => exact .pending created.whole_floor ends.whole_floor
  | completed =>
    obtain ⟨code, rfl⟩ := Option.isSome_iff_exists.1 (status rfl)
    exact .completed created.whole_floor ends.whole_floor text

end

namespace Wire

open Json (CanonicalItems isInteger)

/-- The fields that are written for a record describe what is kept of it. -/
theorem describes_encode (r : Record) : Describes (.ofList (encode r)) r.stored := by
  rw [← encode_stored]
  exact describes_insert_all .empty r.stored

/-- Records survive their flat form, whatever their owner, their status and the strings and numbers
of their payload are; only a payload that is nested too deeply is written and then refused. -/
theorem decode_encode (r : Record) (created : r.createdAt.Leapless) (ends : r.expiresAt.Leapless)
    (status : r.state = .completed → r.status.isSome = true)
    (canonical : ∀ j ∈ r.payload, j.Canonical) :
    ((∀ j ∈ r.payload, j.noDouble = true ∧ j.depth ≤ 127) →
        decode r.key (encode r) = .ok (some r.stored) ∧ r.Survives r.stored) ∧
      (r.state = .completed → (∃ j ∈ r.payload, 128 ≤ j.depth) →
        ∃ detail, decode r.key (encode r) = .error (.document detail)) := by
  have describes := describes_encode r
  constructor
  · intro shallow
    have portable : r.stored.Portable := portable_stored created ends status fun j given =>
      ⟨canonical j given, (shallow j given).1, (shallow j given).2⟩
    exact ⟨decode_of_describes portable describes, survives_stored created ends status⟩
  · rintro completed ⟨j, given, deep⟩
    obtain ⟨code, coded⟩ := Option.isSome_iff_exists.1 (status completed)
    have cached := outcome?_of_completed completed coded
    rw [← outcome?_stored, given, Option.getD_some] at cached
    have read : decode r.key (encode r) = _ :=
      decode_of_describes_completed describes created.whole_floor ends.whole_floor completed cached
    obtain ⟨fault, refused⟩ := Json.read?_text_of_deep (canonical j given) deep
    rw [readPayload, refused] at read
    exact ⟨_, read⟩

/-! A record that is created just before 1970, between two milliseconds. -/

/-- Null inside a number of arrays. -/
def nested : Nat → Json
  | 0 => .null
  | n + 1 => .array [nested n]

theorem canonical_nested (n : Nat) : (nested n).Canonical := by
  induction n with
  | zero => exact .null
  | succ n ih => exact .array (.cons ih .nil)

theorem depth_nested (n : Nat) : (nested n).depth = n := by
  induction n with
  | zero => rfl
  | succ n ih => rw [nested, Json.depth, Json.depthItems, Json.depthItems, ih, Nat.max_zero]

/-- The record, with a payload. -/
def early (payload : Json) : Record where
  key := "shop:k"
  state := .completed
  owner := default
  status := some 65535
  payload := some payload
  createdAt := (Instant.ofParts? (-1) 999999999).getD .epoch
  expiresAt := (Instant.ofParts? 0 1500000).getD .epoch

/-- What is kept of it. -/
def earlyStored (payload : Json) : Record :=
  { early payload with
    createdAt := (Instant.ofParts? (-1) 999000000).getD .epoch
    expiresAt := (Instant.ofParts? 0 1000000).getD .epoch }

/-- A payload with the greatest number, the least one and a string with a quote, a control character
and a letter outside of ASCII. -/
def mixed : Json :=
  .object [
    ("a", .array [.int 18446744073709551615, .int (-9223372036854775808)]),
    ("b", .string "\"\x01é")]

theorem canonical_mixed : mixed.Canonical := by
  have numbers := CanonicalItems.cons (.int (show isInteger 18446744073709551615 = true by decide))
    (.cons (.int (show isInteger (-9223372036854775808) = true by decide)) .nil)
  exact .object (by decide) (.cons (.array numbers) (.cons (.string _) .nil))

theorem decode_encode_early :
    decode "shop:k" (encode (early mixed)) = .ok (some (earlyStored mixed)) ∧
      ∃ detail, decode "shop:k" (encode (early (nested 128))) = .error (.document detail) := by
  constructor
  · refine ((decode_encode (early mixed) (by decide) (by decide) (fun _ => rfl) ?_).1 ?_).1
    · rintro j ⟨⟩
      exact canonical_mixed
    · rintro j ⟨⟩
      exact ⟨rfl, by decide⟩
  · refine (decode_encode (early (nested 128)) (by decide) (by decide) (fun _ => rfl) ?_).2 rfl
      ⟨_, rfl, (depth_nested 128).ge⟩
    rintro j ⟨⟩
    exact canonical_nested 128

end Wire

end Turnstile.Record
