import Turnstile.Store.Keyspace

/-!
What the commands and scripts of a server of hashes do. Main statements: after fields and a time to
live were set, the key holds the new hash as long as that lasts and every other key is as before
(`Keyspace.live?_write`); and one equation for each script, whether the time to live that it sets is
too long (`Script.execute_acquire_eq` and its companions) or not (`Script.execute_acquire`).
-/

namespace Turnstile

namespace Keyspace

/-! ## Keys and times -/

/-- Whether a hash has not reached the end of its time to live. -/
def isThere (now : Int) (h : Hash) : Bool := !h.expiry.any (Expiry.isOver · now)

variable (k : Keyspace) {earlier now : Int} (key : String)

theorem live?_eq : k.live? now key = (k.hashes.find? key).filter (isThere now) := rfl

/-- A hash that is gone does not come back. -/
theorem live?_of_le (le : earlier ≤ now) :
    k.live? now key = (k.live? earlier key).filter (isThere now) := by
  rw [live?_eq, live?_eq, Option.filter_filter]
  congr 1
  funext h
  obtain ⟨fields, expiry⟩ := h
  cases expiry with
  | none => simp [isThere]
  | some e =>
    simp only [isThere, Option.any_some, Expiry.isOver]
    by_cases expired : e.setAt + e.millis ≤ earlier
    · have expired' : e.setAt + e.millis ≤ now := Int.le_trans expired le
      simp [expired, expired']
    · simp [expired]

theorem live?_put (h : Hash) (key' : String) :
    (k.put key h).live? now key' =
      if key' = key then (some h).filter (isThere now) else k.live? now key' := by
  rw [live?_eq, put, Table.find?_insert]
  split <;> rfl

theorem live?_del (key' : String) :
    (k.del key).live? now key' = if key' = key then none else k.live? now key' := by
  rw [live?_eq, del, Table.find?_erase]
  split <;> rfl

/-- A hash without a time to live does not go away. -/
theorem isThere_of_expiry_none {h : Hash} (forever : h.expiry = none) : isThere now h = true := by
  rw [isThere, forever]
  rfl

theorem isThere_of_live? {k : Keyspace} {key : String} {h : Hash}
    (found : k.live? now key = some h) : isThere now h = true := by
  rw [live?_eq, Option.filter_eq_some_iff] at found
  exact found.2

/-! ## Writing -/

/-- The fields of a key; a key that is not there has none. -/
def fieldsAt (now : Int) : Table String := (k.live? now key).elim .empty Hash.fields

/-- The hash of a key after fields were set; its time to live is kept. -/
def updated (now : Int) (pairs : List (String × String)) : Hash :=
  ⟨pairs.foldl (fun t pair => t.insert pair.1 pair.2) (k.fieldsAt key now),
    (k.live? now key).bind Hash.expiry⟩

theorem hset_eq (pairs : List (String × String)) :
    k.hset now key pairs = k.put key (k.updated key now pairs) := by
  unfold hset updated fieldsAt
  cases k.live? now key <;> rfl

theorem fieldsAt_of_live? {k : Keyspace} {key : String} {h : Hash}
    (found : k.live? now key = some h) : k.fieldsAt key now = h.fields := by
  rw [fieldsAt, found, Option.elim_some]

theorem fieldsAt_of_absent {k : Keyspace} {key : String} (absent : k.live? now key = none) :
    k.fieldsAt key now = .empty := by
  rw [fieldsAt, absent, Option.elim_none]

/-- Fields can be set at any time. -/
theorem isThere_updated (pairs : List (String × String)) :
    isThere now (k.updated key now pairs) = true := by
  rw [updated]
  cases found : k.live? now key with
  | none => rfl
  | some h =>
    have there := isThere_of_live? found
    simpa [isThere] using there

/-- Fields that are set change no other key, nor the time to live of their own. -/
theorem live?_hset (pairs : List (String × String)) (key' : String) :
    (k.hset now key pairs).live? now key' =
      if key' = key then some (k.updated key now pairs) else k.live? now key' := by
  rw [hset_eq, live?_put, Option.filter_some, if_pos (k.isThere_updated key pairs)]

/-- Sets fields of a key and then its time to live. -/
def write (now : Int) (millis : Nat) (pairs : List (String × String)) : Keyspace :=
  (k.hset now key pairs).pexpire now key millis

/-- What stands under a key after its fields and its time to live were set. -/
theorem find?_write (millis : Nat) (pairs : List (String × String)) (key' : String) :
    (k.write key now millis pairs).hashes.find? key' =
      if key' = key then
        if millis = 0 then none else some ⟨(k.updated key now pairs).fields, some ⟨now, millis⟩⟩
      else k.hashes.find? key' := by
  rw [write, pexpire, k.live?_hset key pairs, if_pos rfl]
  by_cases zero : millis = 0
  · simp only [zero, if_true, del, Table.find?_erase, hset_eq, put, Table.find?_insert]
    split <;> rfl
  · simp only [zero, if_false, put, Table.find?_insert, hset_eq]
    split <;> rfl

/-- A key whose fields and time to live were set holds them until the time is over, and a time of
zero is over at once; no other key is concerned. -/
theorem live?_write (millis : Nat) (pairs : List (String × String)) (key' : String) :
    (k.write key now millis pairs).live? now key' =
      if key' = key then
        (some ⟨(k.updated key now pairs).fields, some ⟨now, millis⟩⟩).filter (isThere now)
      else k.live? now key' := by
  rw [live?_eq, find?_write]
  by_cases same : key' = key
  · simp only [same, if_true]
    by_cases zero : millis = 0
    · have ended : isThere now ⟨(k.updated key now pairs).fields, some ⟨now, millis⟩⟩ = false := by
        simp [isThere, Expiry.isOver, zero]
      rw [if_pos zero, Option.filter_some, ended, if_neg Bool.false_ne_true, Option.filter_none]
    · rw [if_neg zero]
  · simp only [same, if_false]
    rfl

/-- The error about a time to live that is too long. -/
def rangeError : String := "ERR value is not an integer or out of range"

/-- Sets fields of a key and then its time to live. One that is too long raises an error, and the
fields stay. -/
def tryWrite (now : Int) (millis : Nat) (pairs : List (String × String)) :
    Except String Unit × Keyspace :=
  if millis < expiryLimit then (.ok (), k.write key now millis pairs)
  else (.error rangeError, k.hset now key pairs)

theorem tryWrite_of_lt {millis : Nat} (fits : millis < expiryLimit)
    (pairs : List (String × String)) :
    k.tryWrite key now millis pairs = (.ok (), k.write key now millis pairs) := if_pos fits

theorem live?_tryWrite_of_ne (millis : Nat) (pairs : List (String × String)) {key' : String}
    (other : key' ≠ key) :
    (k.tryWrite key now millis pairs).2.live? now key' = k.live? now key' := by
  rw [tryWrite]
  split
  · rw [live?_write, if_neg other]
  · rw [live?_hset, if_neg other]

theorem tryWrite_of_le {millis : Nat} (long : expiryLimit ≤ millis)
    (pairs : List (String × String)) :
    k.tryWrite key now millis pairs = (.error rangeError, k.hset now key pairs) :=
  if_neg (Nat.not_lt.2 long)

/-! ## What all hashes share -/

/-- Every hash of a server has a property. -/
def Every (P : Hash → Prop) (k : Keyspace) : Prop := ∀ key h, k.hashes.find? key = some h → P h

namespace Every

variable {P : Hash → Prop} {k : Keyspace} {key : String}

theorem empty : Every P Keyspace.empty := by
  intro key h found
  cases found

theorem of_live? {h : Hash} (every : k.Every P) (found : k.live? now key = some h) : P h := by
  rw [live?_eq, Option.filter_eq_some_iff] at found
  exact every key h found.1

theorem del (every : k.Every P) (key : String) : (k.del key).Every P := by
  intro key' h found
  rw [Keyspace.del, Table.find?_erase] at found
  split at found
  · cases found
  · exact every key' h found

theorem write {millis : Nat} {pairs : List (String × String)} (every : k.Every P)
    (new : P ⟨(k.updated key now pairs).fields, some ⟨now, millis⟩⟩) :
    (k.write key now millis pairs).Every P := by
  intro key' h found
  rw [k.find?_write] at found
  split at found
  · split at found
    · cases found
    · cases found
      exact new
  · exact every key' h found

end Every

end Keyspace

/-! ## Scripts -/

namespace Script

variable {α β : Type} (k : Keyspace) (now : Int) (key : String) (millis : Nat)

/-- A script goes on where its first part ended, unless that raised an error. -/
theorem run_bind (first : Script α) (rest : α → Script β) :
    (first >>= rest).run.run k =
      match first.run.run k with
      | (.ok a, k') => (rest a).run.run k'
      | (.error text, k') => (.error text, k') := by
  show (match first k with
    | (result, k') => (ExceptT.bindCont rest result : StateM Keyspace (Except String β)) k') = _
  show _ = match first k with
    | (.ok a, k') => rest a k'
    | (.error text, k') => (.error text, k')
  cases first k with
  | mk result k' => cases result <;> rfl

theorem run_pure (a : α) : (pure a : Script α).run.run k = (.ok a, k) := rfl

theorem run_get : (get : Script Keyspace).run.run k = (.ok k, k) := rfl

theorem run_modify (f : Keyspace → Keyspace) :
    (modify f : Script PUnit).run.run k = (.ok ⟨⟩, f k) := rfl

/-- A time to live is set after the fields, if it is not too long. -/
theorem run_pexpire_hset (fields : List (String × String)) :
    (pexpire now key millis).run.run (k.hset now key fields) =
      k.tryWrite key now millis fields := by
  rw [pexpire]
  by_cases long : Keyspace.expiryLimit ≤ millis
  · rw [if_pos long, k.tryWrite_of_le key long]
    rfl
  · rw [if_neg long, k.tryWrite_of_lt key (Nat.not_le.1 long)]
    rfl

theorem run_writeLease (fields : List (String × String)) :
    (writeLease now key millis fields).run.run k = k.tryWrite key now millis fields :=
  run_pexpire_hset k now key millis fields

/-- The reply of a script that writes and then gives a reply of its own. -/
def replyAfter (reply : Reply) : Except String Unit × Keyspace → Reply × Keyspace
  | (.ok _, k) => (reply, k)
  | (.error text, k) => (.error text, k)

@[simp]
theorem snd_replyAfter (reply : Reply) (written : Except String Unit × Keyspace) :
    (replyAfter reply written).2 = written.2 := by
  rcases written with ⟨_ | _, _⟩ <;> rfl

theorem execute_acquire_eq (fields : List (String × String)) :
    (acquire now key millis fields).execute k =
      match k.live? now key with
      | some h => (Keyspace.flatten h.fields.entries, k)
      | none => replyAfter (.list (some [])) (k.tryWrite key now millis fields) := by
  simp only [execute, acquire, run_bind, run_get]
  cases found : k.live? now key with
  | some h =>
    simp only [Option.isSome_some, if_true, run_bind, run_get, run_pure, Keyspace.hgetall, found,
      Option.elim_some]
  | none =>
    simp only [Option.isSome_none, Bool.false_eq_true, if_false, run_bind, run_writeLease]
    rcases k.tryWrite key now millis fields with ⟨_ | _, _⟩ <;> rfl

theorem execute_replace_eq (fields : List (String × String)) :
    (replace now key millis fields).execute k =
      replyAfter (.integer 1) ((k.del key).tryWrite key now millis fields) := by
  simp only [execute, replace, run_bind, run_modify, run_writeLease]
  rcases (k.del key).tryWrite key now millis fields with ⟨_ | _, _⟩ <;> rfl

theorem execute_release (owner : String) :
    (release now key owner).execute k =
      if k.hget now key "owner" = some owner then (.integer 1, k.del key) else (.integer 0, k) := by
  simp only [execute, release, run_bind, run_get]
  by_cases owned : k.hget now key "owner" = some owner
  · simp only [owned, if_true, run_bind, run_modify, run_pure]
  · simp only [owned, if_false, run_pure]

theorem execute_complete_eq (owner status payload expiresAt : String) :
    (complete now key owner status payload expiresAt millis).execute k =
      if k.hget now key "owner" = some owner ∧ k.hget now key "state" = some "PENDING" then
        replyAfter (.integer 1) (k.tryWrite key now millis
          [("state", "COMPLETED"), ("status", status), ("payload", payload),
            ("expires_at", expiresAt)])
      else (.integer 0, k) := by
  simp only [execute, complete, run_bind, run_get]
  by_cases owned : k.hget now key "owner" = some owner
  · by_cases pending : k.hget now key "state" = some "PENDING"
    · simp only [owned, pending, ne_eq, not_true, if_false, and_self, if_true, run_bind, run_get,
        run_modify, run_pexpire_hset]
      generalize k.tryWrite key now millis _ = written
      rcases written with ⟨_ | _, _⟩ <;> rfl
    · simp only [owned, pending, ne_eq, not_true, not_false_iff, if_false, and_false, if_true,
        run_bind, run_get, run_pure]
  · simp only [owned, ne_eq, not_false_iff, if_true, false_and, if_false, run_pure]

section

variable {millis : Nat} (fits : millis < Keyspace.expiryLimit)

include fits

theorem execute_acquire (fields : List (String × String)) :
    (acquire now key millis fields).execute k =
      match k.live? now key with
      | some h => (Keyspace.flatten h.fields.entries, k)
      | none => (.list (some []), k.write key now millis fields) := by
  rw [execute_acquire_eq, k.tryWrite_of_lt key fits]
  rfl

theorem execute_replace (fields : List (String × String)) :
    (replace now key millis fields).execute k =
      (.integer 1, (k.del key).write key now millis fields) := by
  rw [execute_replace_eq, (k.del key).tryWrite_of_lt key fits]
  rfl

theorem execute_complete (owner status payload expiresAt : String) :
    (complete now key owner status payload expiresAt millis).execute k =
      if k.hget now key "owner" = some owner ∧ k.hget now key "state" = some "PENDING" then
        (.integer 1, k.write key now millis
          [("state", "COMPLETED"), ("status", status), ("payload", payload),
            ("expires_at", expiresAt)])
      else (.integer 0, k) := by
  rw [execute_complete_eq, k.tryWrite_of_lt key fits]
  rfl

end

end Script

end Turnstile
