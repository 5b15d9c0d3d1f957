import Turnstile.Proofs.Json.RoundTrip
import Turnstile.Proofs.Time.Whole
import Turnstile.Record.Wire

/-!
The flat form of a record loses nothing that a store puts into it. Fields describe a record when
they hold the texts that `Wire.encode` writes, whatever else they hold. Main statement: a record
with whole times and a payload that survives its text is decoded from any fields that describe it
(`Wire.decode_of_describes`).
-/

namespace Turnstile.Record

/-! ## Records that a flat form can hold -/

/-- A lease or a cached outcome, between whole times and with a payload that survives its text. -/
inductive Portable : Record → Prop
  | pending {key : String} {owner : Token} {createdAt expiresAt : Instant}
      (created : createdAt.Whole) (ends : expiresAt.Whole) :
      Portable ⟨key, .pending, owner, none, none, createdAt, expiresAt⟩
  | completed {key : String} {owner : Token} {status : UInt16} {payload : Json}
      {createdAt expiresAt : Instant} (created : createdAt.Whole) (ends : expiresAt.Whole)
      (text : payload.Portable) :
      Portable ⟨key, .completed, owner, some status, some payload, createdAt, expiresAt⟩

theorem Portable.ends {r : Record} (h : r.Portable) : r.expiresAt.Whole := by
  cases h <;> assumption

theorem Portable.created {r : Record} (h : r.Portable) : r.createdAt.Whole := by
  cases h <;> assumption

/-- A fresh lease is portable. -/
theorem portable_of_pending? {now : Instant} {key : String} {owner : Token} {n : Nat} {r : Record}
    (whole : now.Whole) (fits : (Span.ofMillis n).Fits now)
    (fresh : pending? now key owner (.ofMillis n) = some r) :
    r.Portable ∧ r.key = key ∧ r.expiresAt.millis = now.millis + n := by
  rw [pending?, fits.deadline?_eq, Option.map_eq_some_iff] at fresh
  obtain ⟨ends, hends, rfl⟩ := fresh
  have later := whole.add? hends
  exact ⟨.pending whole later.1, rfl, later.2⟩

/-- A record that takes an outcome stays portable. -/
theorem Portable.withOutcome {r : Record} {o : Outcome} {ends : Instant} (h : r.Portable)
    (text : o.payload.Portable) (whole : ends.Whole) :
    Portable { r.withOutcome o with expiresAt := ends } :=
  .completed h.created whole text

namespace Wire

/-! ## Fields that describe a record -/

/-- The fields hold what is written for a record. -/
def Describes (fields : Table String) (r : Record) : Prop :=
  ∀ pair ∈ encode r, fields.find? pair.1 = some pair.2

/-- No field of a record is written twice. -/
theorem nodup_encode (r : Record) : ((encode r).map Prod.fst).Nodup := by
  unfold encode
  split <;> simp

/-- The fields of a record describe it, be they put over others or not. -/
theorem describes_insert_all (fields : Table String) (r : Record) :
    Describes ((encode r).foldl (fun t pair => t.insert pair.1 pair.2) fields) r := by
  rintro ⟨name, text⟩ written
  rw [Table.find?_insert_all fields (nodup_encode r),
    Table.lookupIn_of_mem (nodup_encode r) written, Option.some_or]

section

variable {fields : Table String} {r : Record}

/-- The fields that every record has. -/
def leaseFields (r : Record) : List (String × String) :=
  [("state", r.state.text), ("owner", r.owner.text),
    ("created_at", Text.writeInt r.createdAt.millis),
    ("expires_at", Text.writeInt r.expiresAt.millis)]

theorem Describes.find?_of_lease {name text : String} (h : Describes fields r)
    (written : (name, text) ∈ leaseFields r) : fields.find? name = some text := by
  refine h (name, text) ?_
  unfold encode
  split
  · exact List.mem_append_left _ written
  · exact written

theorem Describes.state (h : Describes fields r) : fields.find? "state" = some r.state.text :=
  h.find?_of_lease (by simp [leaseFields])

theorem Describes.owner (h : Describes fields r) : fields.find? "owner" = some r.owner.text :=
  h.find?_of_lease (by simp [leaseFields])

theorem Describes.createdAt (h : Describes fields r) :
    fields.find? "created_at" = some (Text.writeInt r.createdAt.millis) :=
  h.find?_of_lease (by simp [leaseFields])

theorem Describes.expiresAt (h : Describes fields r) :
    fields.find? "expires_at" = some (Text.writeInt r.expiresAt.millis) :=
  h.find?_of_lease (by simp [leaseFields])

theorem Describes.outcome {o : Outcome} (h : Describes fields r) (cached : r.outcome? = some o) :
    fields.find? "status" = some (Text.writeNat o.status.toNat) ∧
      fields.find? "payload" = some o.payload.text := by
  constructor
  · exact h ("status", Text.writeNat o.status.toNat) (by simp [encode, cached])
  · exact h ("payload", o.payload.text) (by simp [encode, cached])

end

/-- What is written when an outcome is cached. -/
def outcomeFields (o : Outcome) (ends : Instant) : List (String × String) :=
  [("state", "COMPLETED"), ("status", Text.writeNat o.status.toNat), ("payload", o.payload.text),
    ("expires_at", Text.writeInt ends.millis)]

/-- An outcome put over the fields of a record describes the record with the outcome. -/
theorem Describes.withOutcome {fields : Table String} {r : Record} (h : Describes fields r)
    (o : Outcome) (ends : Instant) :
    Describes ((outcomeFields o ends).foldl (fun t pair => t.insert pair.1 pair.2) fields)
      { r.withOutcome o with expiresAt := ends } := by
  have nodup : ((outcomeFields o ends).map Prod.fst).Nodup := by simp [outcomeFields]
  rintro ⟨name, text⟩ written
  rw [Table.find?_insert_all fields nodup]
  simp only [encode, outcome?, Record.withOutcome, Option.getD_some, List.cons_append,
    List.nil_append, List.mem_cons, List.not_mem_nil, or_false, Prod.mk.injEq] at written
  -- the owner and the start are the two fields that stay
  rcases written with ⟨rfl, rfl⟩ | ⟨rfl, rfl⟩ | ⟨rfl, rfl⟩ | ⟨rfl, rfl⟩ | ⟨rfl, rfl⟩ | ⟨rfl, rfl⟩
  · rfl
  · exact h.owner
  · exact h.createdAt
  · rfl
  · rfl
  · rfl

/-! ## Decoding -/

theorem read?_text (state : State) : State.read? state.text = some state := by
  cases state <;> rfl

theorem readMillis?_writeInt {t : Instant} (whole : t.Whole) :
    readMillis? (Text.writeInt t.millis) = some t := by
  have bounds := t.millis_bounds
  rw [readMillis?, Text.readSigned?_writeInt bounds.1 bounds.2, Option.bind_some,
    whole.ofMillis?_millis]

theorem readStatus?_writeNat (status : UInt16) :
    readStatus? (Text.writeNat status.toNat) = some status := by
  rw [readStatus?, Text.readBelow?_writeNat status.toNat_lt, Option.map_some,
    UInt16.ofNat_toNat]

theorem parsed_eq {α : Type} (key : String) {fields : Table String} {name text : String}
    {read? : String → Option α} {a : α} (found : fields.find? name = some text)
    (meaning : read? text = some a) : parsed key fields name read? = .ok a := by
  simp [parsed, required, found, meaning, Except.bind]

section

variable {fields : List (String × String)} {r : Record} (h : Describes (.ofList fields) r)
include h

/-- Fields that describe a record are not none. -/
theorem Describes.isEmpty_eq_false : fields.isEmpty = false := by
  cases fields with
  | nil => simpa [Table.ofList] using h.state
  | cons pair rest => rfl

/-- A lease is decoded from any fields that describe it. -/
theorem decode_of_describes_pending (created : r.createdAt.Whole) (ends : r.expiresAt.Whole)
    (pending : r.state = .pending) :
    decode r.key fields =
      .ok (some ⟨r.key, .pending, r.owner, none, none, r.createdAt, r.expiresAt⟩) := by
  have state := parsed_eq r.key h.state (read?_text r.state)
  have owner := parsed_eq r.key h.owner (Token.read?_text r.owner)
  have createdAt := parsed_eq r.key h.createdAt (readMillis?_writeInt created)
  have expiresAt := parsed_eq r.key h.expiresAt (readMillis?_writeInt ends)
  unfold decode
  simp only [h.isEmpty_eq_false, state, owner, createdAt, expiresAt, pending]
  rfl

/-- Whether a cached outcome is decoded hangs on its payload. -/
theorem decode_of_describes_completed {o : Outcome} (created : r.createdAt.Whole)
    (ends : r.expiresAt.Whole) (completed : r.state = .completed) (cached : r.outcome? = some o) :
    decode r.key fields = (readPayload o.payload.text).map fun payload =>
      some ⟨r.key, .completed, r.owner, some o.status, some payload, r.createdAt, r.expiresAt⟩ := by
  have state := parsed_eq r.key h.state (read?_text r.state)
  have owner := parsed_eq r.key h.owner (Token.read?_text r.owner)
  have createdAt := parsed_eq r.key h.createdAt (readMillis?_writeInt created)
  have expiresAt := parsed_eq r.key h.expiresAt (readMillis?_writeInt ends)
  obtain ⟨statusText, payloadText⟩ := h.outcome cached
  have status := parsed_eq r.key statusText (readStatus?_writeNat o.status)
  unfold decode
  simp only [h.isEmpty_eq_false, state, owner, createdAt, expiresAt, completed, status, payloadText]
  cases readPayload o.payload.text <;> rfl

end

/-- A record is decoded from any fields that describe it. -/
theorem decode_of_describes {fields : List (String × String)} {r : Record} (portable : r.Portable)
    (h : Describes (.ofList fields) r) : decode r.key fields = .ok (some r) := by
  cases portable with
  | pending created ends => exact decode_of_describes_pending h created ends rfl
  | completed created ends text =>
    rw [decode_of_describes_completed h created ends rfl rfl, readPayload, Option.getD_some,
      Json.read?_text text]
    rfl

theorem parsed_eq_ok_iff {α : Type} {key : String} {fields : Table String} {name : String}
    {read? : String → Option α} {a : α} :
    parsed key fields name read? = .ok a ↔
      ∃ text, fields.find? name = some text ∧ read? text = some a := by
  rw [parsed, required]
  cases fields.find? name with
  | none => simp [Except.bind]
  | some text => cases meaning : read? text <;> simp [Except.bind, meaning]

/-- What is decoded of fields that are not none: a record of the parts that were read, field by
field. -/
theorem exists_of_decode {key : String} {fields : List (String × String)} {found : Option Record}
    (given : fields ≠ []) (decoded : decode key fields = .ok found) :
    ∃ state owner createdAt expiresAt,
      parsed key (.ofList fields) "state" State.read? = .ok state ∧
      parsed key (.ofList fields) "owner" Token.read? = .ok owner ∧
      parsed key (.ofList fields) "created_at" readMillis? = .ok createdAt ∧
      parsed key (.ofList fields) "expires_at" readMillis? = .ok expiresAt ∧
      (state = .pending ∧
          found = some ⟨key, .pending, owner, none, none, createdAt, expiresAt⟩ ∨
        state = .completed ∧ ∃ code payload,
          parsed key (.ofList fields) "status" readStatus? = .ok code ∧
          ((Table.ofList fields).find? "payload" = none ∧ payload = .null ∨
            ∃ text, (Table.ofList fields).find? "payload" = some text ∧
              readPayload text = .ok payload) ∧
          found =
            some ⟨key, .completed, owner, some code, some payload, createdAt, expiresAt⟩) := by
  unfold decode at decoded
  rw [if_neg (by simpa using given)] at decoded
  obtain ⟨state, hstate, rest⟩ := bind_eq_ok_iff.1 decoded
  obtain ⟨owner, howner, rest⟩ := bind_eq_ok_iff.1 rest
  obtain ⟨createdAt, hstart, rest⟩ := bind_eq_ok_iff.1 rest
  obtain ⟨expiresAt, hends, rest⟩ := bind_eq_ok_iff.1 rest
  refine ⟨state, owner, createdAt, expiresAt, hstate, howner, hstart, hends, ?_⟩
  cases state with
  | pending =>
    cases rest
    exact .inl ⟨rfl, rfl⟩
  | completed =>
    obtain ⟨code, hstatus, rest⟩ := bind_eq_ok_iff.1 rest
    dsimp only at rest
    split at rest
    · rename_i text last
      obtain ⟨payload, read, rest⟩ := bind_eq_ok_iff.1 rest
      cases rest
      exact .inr ⟨rfl, code, payload, hstatus, .inr ⟨text, last, read⟩, rfl⟩
    · rename_i last
      cases rest
      exact .inr ⟨rfl, code, .null, hstatus, .inl ⟨last, rfl⟩, rfl⟩

/-- The state, the owner and the end of a record that is decoded are read from its fields. -/
theorem fields_of_decode {key : String} {fields : List (String × String)} {r : Record}
    (decoded : decode key fields = .ok (some r)) :
    parsed key (.ofList fields) "state" State.read? = .ok r.state ∧
      parsed key (.ofList fields) "owner" Token.read? = .ok r.owner ∧
      parsed key (.ofList fields) "expires_at" readMillis? = .ok r.expiresAt := by
  have given : fields ≠ [] := by
    rintro rfl
    cases decoded
  obtain ⟨state, owner, createdAt, expiresAt, hstate, howner, -, hends, parts⟩ :=
    exists_of_decode given decoded
  rcases parts with ⟨rfl, same⟩ | ⟨rfl, code, payload, -, -, same⟩
  · cases same
    exact ⟨hstate, howner, hends⟩
  · cases same
    exact ⟨hstate, howner, hends⟩

/-- The name of a state is its only text. -/
theorem eq_text_of_read? {text : String} {state : State} (read : State.read? text = some state) :
    text = state.text := by
  unfold State.read? at read
  split at read
  · cases read
    assumption
  · split at read
    · cases read
      assumption
    · cases read

end Wire

end Turnstile.Record
