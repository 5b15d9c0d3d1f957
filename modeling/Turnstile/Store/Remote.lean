import Turnstile.Record.Wire
import Turnstile.Store.Basic
import Turnstile.Store.Keyspace

/-!
The store on a server of hashes. Every record is a hash under a prefixed key with its own time to
live; the steps that change it are scripts, so each of them is one step of the server. The client
counts each call and logs each failure.
-/

namespace Turnstile.Remote

/-- The state of the store: the keys of the server, replies that the server gives to its next
commands in place of running them, and whether it can be reached. -/
structure State where
  keys : Keyspace
  scripted : List Reply
  reachable : Bool

instance : Inhabited State := ⟨⟨.empty, [], true⟩⟩

/-- The name of the backend. -/
def backend : String := "redis"

/-- The key of a record's hash. -/
def hashKey (keyPrefix key : String) : String := keyPrefix ++ ":" ++ key

/-! ## Talking to the server -/

/-- One command: the next scripted reply, or the reply of the server itself. -/
def command (s : State) (run : Keyspace → Reply × Keyspace) : Reply × State :=
  match s.scripted with
  | r :: rest => (r, { s with scripted := rest })
  | [] =>
    let (r, keys) := run s.keys
    (r, { s with keys := keys })

/-- A reply, or the fault that it reports. -/
def checked (r : Reply) : Except Fault Reply :=
  match r.error? with
  | some text => .error (.server text)
  | none => .ok r

/-- The fault of a server that cannot be reached. -/
def unreachable : Fault := .unavailable "Redis connection failed: the server does not answer"

/-- Runs a command if the server can be reached. -/
def send (s : State) (run : Keyspace → Reply × Keyspace) : Except Fault Reply × State :=
  if s.reachable then
    let (r, s) := command s run
    (checked r, s)
  else (.error unreachable, s)

/-- Calls a script by its hash; a server that does not know it is given the script first. -/
def invoke (s : State) (script : Script Reply) : Except Fault Reply × State :=
  if s.reachable then
    match command s script.execute with
    | (r, s) =>
      if r.isUnknownScript then
        match command s fun keys => (.bulk (some ""), keys) with
        | (loaded, s) =>
          match checked loaded with
          | .error fault => (.error fault, s)
          | .ok _ =>
            let (r, s) := command s script.execute
            (checked r, s)
      else (checked r, s)
  else (.error unreachable, s)

/-- The fault of a reply of an unexpected type. -/
def wrongType : Fault := .server "the reply has an unexpected type"

/-- Reads a reply. -/
def interpret {α : Type} (read? : Reply → Option α) (answer : Except Fault Reply) :
    Except Fault α :=
  answer.bind fun r => (read? r).elim (.error wrongType) .ok

/-! ## Reports -/

/-- How a call ended, for its caller. -/
def attempt {α : Type} : Except Fault α → Attempt α
  | .ok a => .done a
  | .error fault => .failed fault

/-- The measure of a call and the log event of a failure. -/
def report {α : Type} (operation : String) (result : Except Fault α) : List Effect :=
  match result with
  | .ok _ => [.measure (.store backend operation true)]
  | .error fault =>
    [.measure (.store backend operation false),
     .log ⟨.warn, "Redis record store operation failed",
       [("operation", .text operation), ("error", .text fault.message)]⟩]

/-- A call that is counted. -/
def observed {α : Type} (operation : String) (s : State) (result : Except Fault α) : Step State α :=
  ⟨s, report operation result, attempt result⟩

/-! ## Steps -/

/-- The answer to the texts that the acquire script returns: nothing stood in the way, or the record
that they describe did. -/
def claimOf (key : String) (owner : Token) (texts : List String) : Except Fault Claim :=
  if texts.isEmpty then .ok (.acquired owner)
  else
    match Record.Wire.decode key (Reply.pairUp texts) with
    | .ok (some existing) => .ok (.conflict existing)
    | .ok none => .error (.internal "Acquire script returned an empty conflict record")
    | .error fault => .error fault

/-- Grants a lease unless the key's hash is there. -/
def claim (keyPrefix : String) (s : State) (m : Moment) (key : String) (lease : Span) :
    Step State Claim :=
  match Record.pending? m.now key m.fresh lease with
  | none => ⟨s, [], .overflow⟩
  | some r =>
    let (answer, s) := invoke s (Script.acquire m.now.millis (hashKey keyPrefix key)
      lease.cappedMillis (Record.Wire.encode r))
    observed "try_acquire" s ((interpret Reply.texts? answer).bind (claimOf key m.fresh))

/-- Grants a lease whatever hash is there. -/
def seize (keyPrefix : String) (s : State) (m : Moment) (key : String) (lease : Span) :
    Step State Token :=
  match Record.pending? m.now key m.fresh lease with
  | none => ⟨s, [], .overflow⟩
  | some r =>
    let (answer, s) := invoke s (Script.replace m.now.millis (hashKey keyPrefix key)
      lease.cappedMillis (Record.Wire.encode r))
    observed "force_replace" s ((interpret Reply.integer? answer).map fun _ => m.fresh)

/-- The answer to the number that a script returns: one means that it was applied. -/
def finalityOf (n : Int) : Finality := if n = 1 then .applied else .stale

/-- Caches an outcome in the pending hash of an owner. -/
def complete (keyPrefix : String) (s : State) (now : Instant) (key : String) (owner : Token)
    (outcome : Outcome) (window : Span) : Step State Finality :=
  match now.deadline? window with
  | none => ⟨s, [], .overflow⟩
  | some expiresAt =>
    let (answer, s) := invoke s (Script.complete now.millis (hashKey keyPrefix key) owner.text
      (Text.writeNat outcome.status.toNat) outcome.payload.text (Text.writeInt expiresAt.millis)
      window.cappedMillis)
    observed "complete" s ((interpret Reply.integer? answer).map finalityOf)

/-- Removes the hash of an owner. -/
def release (keyPrefix : String) (s : State) (now : Instant) (key : String) (owner : Token) :
    Step State Finality :=
  let (answer, s) := invoke s (Script.release now.millis (hashKey keyPrefix key) owner.text)
  observed "release" s ((interpret Reply.integer? answer).map finalityOf)

/-- The record that a key's hash describes. -/
def read (keyPrefix : String) (s : State) (now : Instant) (key : String) :
    Step State (Option Record) :=
  let (answer, s) := send s fun keys =>
    (Keyspace.flatten (keys.hgetall now.millis (hashKey keyPrefix key)), keys)
  observed "read" s ((interpret Reply.pairs? answer).bind (Record.Wire.decode key))

/-- Asks the server for a sign of life. -/
def ping (s : State) : Step State Pong :=
  let (answer, s) := send s fun keys => (.status "PONG", keys)
  ⟨s, [], attempt (answer.map fun _ => .prompt)⟩

/-- The store on a server; it has nothing to purge because the server drops what has ended. -/
def store (keyPrefix : String) : Store State where
  backend := backend
  claim := claim keyPrefix
  complete := complete keyPrefix
  release := release keyPrefix
  seize := seize keyPrefix
  read := read keyPrefix
  purge := fun s _ => ⟨s, [], .done 0⟩
  ping := ping

end Turnstile.Remote
