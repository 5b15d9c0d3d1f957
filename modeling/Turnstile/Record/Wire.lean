import Turnstile.Fault
import Turnstile.Record
import Turnstile.Table

/-!
The flat form of a record on a server of hashes: named texts, in any order. A pending record has
four fields, a completed one also its status and its payload.
-/

namespace Turnstile.Record.Wire

/-- The fault of a field that is missing. -/
def missing (name : String) : Fault :=
  .internal s!"Idempotency record is missing field '{name}'"

/-- The fault of a field whose text has no meaning. -/
def malformed (key name : String) : Fault :=
  .internal s!"Idempotency record '{key}' has a malformed '{name}' field"

/-- The fields of a record; times are given in milliseconds. -/
def encode (r : Record) : List (String × String) :=
  let lease := [
    ("state", r.state.text),
    ("owner", r.owner.text),
    ("created_at", Text.writeInt r.createdAt.millis),
    ("expires_at", Text.writeInt r.expiresAt.millis)]
  match r.outcome? with
  | some o => lease ++ [("status", Text.writeNat o.status.toNat), ("payload", o.payload.text)]
  | none => lease

/-- A field that must be there. -/
def required (fields : Table String) (name : String) : Except Fault String :=
  match fields.find? name with
  | some text => .ok text
  | none => .error (missing name)

/-- A field that must be there and have a meaning. -/
def parsed {α : Type} (key : String) (fields : Table String) (name : String)
    (read? : String → Option α) : Except Fault α :=
  (required fields name).bind fun text =>
    match read? text with
    | some a => .ok a
    | none => .error (malformed key name)

/-- The instant that a number of milliseconds names. -/
def readMillis? (text : String) : Option Instant :=
  (Text.readSigned? 64 text).bind Instant.ofMillis?

/-- The status code that a text names. -/
def readStatus? (text : String) : Option UInt16 := (Text.readBelow? 65536 text).map UInt16.ofNat

/-- The payload that a text holds. -/
def readPayload (text : String) : Except Fault Json :=
  match Json.read? text with
  | .ok j => .ok j
  | .error _ => .error (.document "the payload is not JSON")

/-- The record of a key and its fields. No field at all means that there is no record; of several
texts for one field the last counts; fields of other names are passed over. -/
def decode (key : String) (fields : List (String × String)) : Except Fault (Option Record) :=
  if fields.isEmpty then .ok none
  else do
    let fields := Table.ofList fields
    let state ← parsed key fields "state" State.read?
    let owner ← parsed key fields "owner" Token.read?
    let createdAt ← parsed key fields "created_at" readMillis?
    let expiresAt ← parsed key fields "expires_at" readMillis?
    match state with
    | .pending => return some ⟨key, .pending, owner, none, none, createdAt, expiresAt⟩
    | .completed =>
      let status ← parsed key fields "status" readStatus?
      let payload ← match fields.find? "payload" with
        | some text => readPayload text
        | none => pure .null
      return some ⟨key, .completed, owner, some status, some payload, createdAt, expiresAt⟩

end Turnstile.Record.Wire
