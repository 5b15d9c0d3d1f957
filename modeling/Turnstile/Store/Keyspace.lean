import Turnstile.Store.Reply
import Turnstile.Table

/-!
A server of hashes: keys with named texts and an optional time to live. A script runs command after
command on it; what was done before a command that raises an error stays done.
-/

namespace Turnstile

/-- A time to live: when it was set and for how long, in milliseconds. -/
structure Expiry where
  setAt : Int
  millis : Nat
deriving DecidableEq, Repr

/-- A hash: named texts and the time to live of its key. -/
structure Hash where
  fields : Table String
  expiry : Option Expiry

/-- The hashes of a server. -/
structure Keyspace where
  hashes : Table Hash

namespace Keyspace

/-- A server without keys. -/
def empty : Keyspace := ⟨.empty⟩

instance : Inhabited Keyspace := ⟨empty⟩

/-- Whether a hash is still there. -/
def Expiry.isOver (e : Expiry) (now : Int) : Bool := e.setAt + e.millis ≤ now

/-- The hash of a key, if it is still there. -/
def live? (k : Keyspace) (now : Int) (key : String) : Option Hash :=
  (k.hashes.find? key).filter fun h => !h.expiry.any (Expiry.isOver · now)

/-- Puts a hash under a key. -/
def put (k : Keyspace) (key : String) (h : Hash) : Keyspace := ⟨k.hashes.insert key h⟩

/-- Removes a key. -/
def del (k : Keyspace) (key : String) : Keyspace := ⟨k.hashes.erase key⟩

/-- Sets fields of a hash, which is made if it is not there; its time to live is kept. -/
def hset (k : Keyspace) (now : Int) (key : String) (pairs : List (String × String)) : Keyspace :=
  let h := (k.live? now key).getD ⟨.empty, none⟩
  k.put key { h with fields := pairs.foldl (fun t pair => t.insert pair.1 pair.2) h.fields }

/-- The fields of a hash; a key that is not there has none. -/
def hgetall (k : Keyspace) (now : Int) (key : String) : List (String × String) :=
  ((k.live? now key).elim [] fun h => h.fields.entries)

/-- A field of a hash. -/
def hget (k : Keyspace) (now : Int) (key field : String) : Option String :=
  (k.live? now key).bind fun h => h.fields.find? field

/-- The first time to live that is too long. -/
def expiryLimit : Nat := Nat.pow 2 63

/-- Sets the time to live of a key; zero removes it. -/
def pexpire (k : Keyspace) (now : Int) (key : String) (millis : Nat) : Keyspace :=
  match k.live? now key with
  | some h => if millis = 0 then k.del key else k.put key { h with expiry := some ⟨now, millis⟩ }
  | none => k

/-- A list of names and values as a reply. -/
def flatten (pairs : List (String × String)) : Reply :=
  .list (some (pairs.flatMap fun (name, value) => [.bulk (some name), .bulk (some value)]))

end Keyspace

/-! ## Scripts -/

/-- A program that runs on the server: it changes the keys and may raise an error, which undoes
nothing. -/
abbrev Script := ExceptT String (StateM Keyspace)

namespace Script

/-- The command that sets a time to live; one that is too long raises an error. -/
def pexpire (now : Int) (key : String) (millis : Nat) : Script Unit := do
  if Keyspace.expiryLimit ≤ millis then
    throw "ERR value is not an integer or out of range"
  modify (·.pexpire now key millis)

/-- Writes a fresh lease. -/
def writeLease (now : Int) (key : String) (millis : Nat) (fields : List (String × String)) :
    Script Unit := do
  modify (·.hset now key fields)
  pexpire now key millis

/-- Writes a fresh lease unless the key is there, and answers with what is there. -/
def acquire (now : Int) (key : String) (millis : Nat) (fields : List (String × String)) :
    Script Reply := do
  if ((← get).live? now key).isSome then
    return Keyspace.flatten ((← get).hgetall now key)
  writeLease now key millis fields
  return .list (some [])

/-- Writes an outcome into the pending hash of an owner. -/
def complete (now : Int) (key owner status payload expiresAt : String) (millis : Nat) :
    Script Reply := do
  if (← get).hget now key "owner" ≠ some owner then
    return .integer 0
  if (← get).hget now key "state" ≠ some "PENDING" then
    return .integer 0
  modify (·.hset now key
    [("state", "COMPLETED"), ("status", status), ("payload", payload), ("expires_at", expiresAt)])
  pexpire now key millis
  return .integer 1

/-- Removes the hash of an owner. -/
def release (now : Int) (key owner : String) : Script Reply := do
  if (← get).hget now key "owner" = some owner then
    modify (·.del key)
    return .integer 1
  return .integer 0

/-- Writes a fresh lease whatever is there. -/
def replace (now : Int) (key : String) (millis : Nat) (fields : List (String × String)) :
    Script Reply := do
  modify (·.del key)
  writeLease now key millis fields
  return .integer 1

/-- Runs a script as one step of the server; an error becomes an error reply. -/
def execute (script : Script Reply) (k : Keyspace) : Reply × Keyspace :=
  match (script.run.run k) with
  | (.ok reply, k) => (reply, k)
  | (.error text, k) => (.error text, k)

end Script

end Turnstile
