import Turnstile.Outcome
import Turnstile.Time.Stamp
import Turnstile.Token

/-!
Records: what a store keeps under a key. A record is pending while its operation runs and completed
once the outcome is cached; the absence of a record is the third state of a key.
-/

namespace Turnstile

/-- The state of a record that exists. -/
inductive Record.State
  | pending
  | completed
deriving DecidableEq, Repr

/-- The name of a state. -/
def Record.State.text : Record.State → String
  | .pending => "PENDING"
  | .completed => "COMPLETED"

/-- The state of a name. -/
def Record.State.read? (s : String) : Option Record.State :=
  if s = "PENDING" then some .pending
  else if s = "COMPLETED" then some .completed
  else none

/-- A stored record. A document may hold any combination of its parts; the stores build pending
records without and completed records with a status and a payload. -/
structure Record where
  key : String
  state : Record.State
  owner : Token
  status : Option UInt16
  payload : Option Json
  createdAt : Instant
  expiresAt : Instant

namespace Record

/-! ## Life of a record -/

/-- A fresh lease; `none` when its end is out of range. -/
def pending? (now : Instant) (key : String) (owner : Token) (lease : Span) : Option Record :=
  (now.deadline? lease).map fun expiresAt =>
    ⟨key, .pending, owner, none, none, now, expiresAt⟩

/-- The record with the outcome put in, before its new end is known. -/
def withOutcome (r : Record) (o : Outcome) : Record :=
  { r with state := .completed, status := some o.status, payload := some o.payload }

/-- Whether the record has ended: its last moment is just before its end. -/
def isExpiredAt (r : Record) (now : Instant) : Bool := r.expiresAt.le now

/-- Whether the operation of the record is still to end. -/
def isPending (r : Record) : Bool := r.state = .pending

/-- Whether the record holds an outcome. -/
def isCompleted (r : Record) : Bool := r.state = .completed

/-- Whether a token holds the record. -/
def isOwnedBy (r : Record) (owner : Token) : Bool := r.owner = owner

/-- The cached outcome of a completed record. -/
def outcome? (r : Record) : Option Outcome :=
  match r.state, r.status with
  | .completed, some status => some ⟨status, r.payload.getD .null⟩
  | _, _ => none

/-! ## As JSON -/

/-- The record as JSON. -/
def toJson (r : Record) : Json :=
  .ofMembers [
    ("key", .string r.key),
    ("state", .string r.state.text),
    ("owner_token", .string r.owner.text),
    ("status_code", r.status.elim .null fun s => .nat s.toNat),
    ("payload", r.payload.getD .null),
    ("created_at", .string (Stamp.write r.createdAt)),
    ("expires_at", .string (Stamp.write r.expiresAt))]

/-- Reads a time stamp. -/
def stampDecoder : Json.Decoder Instant := .parsed Stamp.read?

/-- Reads a record. -/
def decoder : Json.Decoder Record :=
  Json.Fields.decode <|
    Record.mk <$> .required "key" .string
      <*> .required "state" (.choice [("PENDING", .pending), ("COMPLETED", .completed)])
      <*> .required "owner_token" (.parsed Token.read?)
      <*> .optional "status_code" Outcome.statusDecoder
      <*> .optional "payload" .json
      <*> .required "created_at" stampDecoder
      <*> .required "expires_at" stampDecoder

end Record

end Turnstile
