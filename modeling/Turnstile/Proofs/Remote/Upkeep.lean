import Turnstile.Proofs.Record.Wire
import Turnstile.Proofs.Remote.Serving
import Turnstile.Proofs.Store.Journal

/-!
What the calls of the store leave on a server that serves. Main statements: a call leaves the keys
as the one script that it runs leaves them (`state_perform`), and a property that every written hash
has stays a property of every hash (`every_keysAfter`, `every_keysAfterAll`).
-/

namespace Turnstile.Remote

open Store

variable {keyPrefix key : String} {keys : Keyspace} {t : Timed}

/-! ## The script of a call -/

/-- The script that a call runs on the server: none if the call only looks, or if the end of its
window is out of range. -/
def scriptOf? (keyPrefix : String) (t : Timed) : Option (Script Reply) :=
  match t.call with
  | .claim key lease fresh =>
    (Record.pending? t.now key fresh lease).map fun r =>
      Script.acquire t.now.millis (hashKey keyPrefix key) lease.cappedMillis (Record.Wire.encode r)
  | .seize key lease fresh =>
    (Record.pending? t.now key fresh lease).map fun r =>
      Script.replace t.now.millis (hashKey keyPrefix key) lease.cappedMillis (Record.Wire.encode r)
  | .complete key owner outcome window =>
    (t.now.deadline? window).map fun ends =>
      Script.complete t.now.millis (hashKey keyPrefix key) owner.text
        (Text.writeNat outcome.status.toNat) outcome.payload.text (Text.writeInt ends.millis)
        window.cappedMillis
  | .release key owner => some (Script.release t.now.millis (hashKey keyPrefix key) owner.text)
  | .read _ | .purge => none

/-- The keys of the server after a call. -/
def keysAfter (keyPrefix : String) (keys : Keyspace) (t : Timed) : Keyspace :=
  match scriptOf? keyPrefix t with
  | some script => (script.execute keys).2
  | none => keys

/-- The keys of the server after calls one after the other. -/
def keysAfterAll (keyPrefix : String) (keys : Keyspace) (calls : List Timed) : Keyspace :=
  calls.foldl (keysAfter keyPrefix) keys

/-- A script that the server knows is run once. -/
theorem invoke_of_known {script : Script Reply}
    (known : (script.execute keys).1.isUnknownScript = false) :
    invoke (serving keys) script =
      (checked (script.execute keys).1, serving (script.execute keys).2) := by
  simp [invoke, serving, command, known]

theorem isUnknownScript_flatten (pairs : List (String × String)) :
    (Keyspace.flatten pairs).isUnknownScript = false := by
  rw [Reply.isUnknownScript, Keyspace.error?_flatten, Option.any_none]

theorem isUnknownScript_rangeError :
    (Reply.error Keyspace.rangeError).isUnknownScript = false := by
  decide +kernel

/-- What a script says about a time to live that is too long is not that the server does not know
the script. -/
theorem isUnknownScript_replyAfter {reply : Reply} (known : reply.isUnknownScript = false)
    (now : Int) (millis : Nat) (pairs : List (String × String)) :
    (Script.replyAfter reply (keys.tryWrite key now millis pairs)).1.isUnknownScript = false := by
  rcases Nat.lt_or_ge millis Keyspace.expiryLimit with fits | long
  · rw [keys.tryWrite_of_lt key fits]
    exact known
  · rw [keys.tryWrite_of_le key long]
    exact isUnknownScript_rangeError

/-- The server knows the scripts of the store. -/
theorem known_of_scriptOf? {script : Script Reply} (h : scriptOf? keyPrefix t = some script) :
    (script.execute keys).1.isUnknownScript = false := by
  obtain ⟨now, call⟩ := t
  cases call with
  | claim key lease fresh =>
    obtain ⟨r, -, rfl⟩ := Option.map_eq_some_iff.1 h
    rw [Script.execute_acquire_eq]
    split
    · exact isUnknownScript_flatten _
    · exact isUnknownScript_replyAfter rfl _ _ _
  | seize key lease fresh =>
    obtain ⟨r, -, rfl⟩ := Option.map_eq_some_iff.1 h
    rw [Script.execute_replace_eq]
    exact isUnknownScript_replyAfter rfl _ _ _
  | complete key owner outcome window =>
    obtain ⟨ends, -, rfl⟩ := Option.map_eq_some_iff.1 h
    rw [Script.execute_complete_eq]
    split
    · exact isUnknownScript_replyAfter rfl _ _ _
    · rfl
  | release key owner =>
    cases h
    rw [Script.execute_release]
    split <;> rfl
  | read key => cases h
  | purge => cases h

/-- A call leaves the keys as its script leaves them. -/
theorem state_perform (keyPrefix : String) (keys : Keyspace) (t : Timed) :
    ((store keyPrefix).perform (serving keys) t).state = serving (keysAfter keyPrefix keys t) := by
  have invoked : ∀ script, scriptOf? keyPrefix t = some script →
      invoke (serving keys) script =
        (checked (script.execute keys).1, serving (script.execute keys).2) :=
    fun script h => invoke_of_known (known_of_scriptOf? h)
  obtain ⟨now, call⟩ := t
  rw [keysAfter]
  cases call with
  | claim key lease fresh =>
    simp only [perform, perform.as, store, claim, scriptOf?] at invoked ⊢
    cases pending : Record.pending? now key fresh lease with
    | none => rfl
    | some r =>
      rw [pending] at invoked
      simp only [Option.map_some, invoked _ rfl, observed]
  | seize key lease fresh =>
    simp only [perform, perform.as, store, seize, scriptOf?] at invoked ⊢
    cases pending : Record.pending? now key fresh lease with
    | none => rfl
    | some r =>
      rw [pending] at invoked
      simp only [Option.map_some, invoked _ rfl, observed]
  | complete key owner outcome window =>
    simp only [perform, perform.as, store, complete, scriptOf?] at invoked ⊢
    cases inRange : now.deadline? window with
    | none => rfl
    | some ends =>
      rw [inRange] at invoked
      simp only [Option.map_some, invoked _ rfl, observed]
  | release key owner =>
    simp only [perform, perform.as, store, release, invoked _ rfl, observed]
    rfl
  | read key => simp only [perform, perform.as, store, read_serving, observed, scriptOf?]
  | purge => rfl

/-- Calls one after the other leave the keys as their scripts leave them. -/
theorem inner_run (keyPrefix : String) {s : Journaled State} (at_keys : s.inner = serving keys)
    (calls : List Timed) :
    (s.run (store keyPrefix) calls).inner = serving (keysAfterAll keyPrefix keys calls) := by
  induction calls generalizing s keys with
  | nil => exact at_keys
  | cons t rest ih =>
    rw [Journaled.run_cons]
    refine ih ?_
    rw [← state_perform, ← at_keys]
    rfl

/-! ## A hash that is let be -/

/-- A call lets a hash be: it does not seize the key, it does not remove the hash as its owner, and
it does not put an outcome into it as its owner while it is pending. -/
def Spares (key : String) (h : Hash) (call : Call) : Prop :=
  match call with
  | .seize k _ _ => k ≠ key
  | .complete k owner _ _ =>
    k = key → h.fields.find? "owner" = some owner.text → h.fields.find? "state" ≠ some "PENDING"
  | .release k owner => k = key → h.fields.find? "owner" ≠ some owner.text
  | .claim .. | .read _ | .purge => True

section

variable {h : Hash}

/-- A hash that a call lets be stays as it is. -/
theorem live?_keysAfter (found : keys.live? t.now.millis (hashKey keyPrefix key) = some h)
    (spared : Spares key h t.call) :
    (keysAfter keyPrefix keys t).live? t.now.millis (hashKey keyPrefix key) = some h := by
  have field : ∀ name, keys.hget t.now.millis (hashKey keyPrefix key) name = h.fields.find? name :=
    fun name => by rw [Keyspace.hget, found, Option.bind_some]
  have other : ∀ {k : String}, k ≠ key → hashKey keyPrefix key ≠ hashKey keyPrefix k :=
    fun ne same => ne (hashKey_inj.1 same).symm
  obtain ⟨now, call⟩ := t
  rw [keysAfter]
  cases call with
  | claim k lease fresh =>
    cases pending : Record.pending? now k fresh lease with
    | none => simpa only [scriptOf?, pending, Option.map_none] using found
    | some r =>
      simp only [scriptOf?, pending, Option.map_some, Script.execute_acquire_eq]
      cases there : keys.live? now.millis (hashKey keyPrefix k) with
      | some existing => exact found
      | none =>
        have ne : k ≠ key := by
          rintro rfl
          rw [found] at there
          cases there
        rw [Script.snd_replyAfter, Keyspace.live?_tryWrite_of_ne _ _ _ _ (other ne), found]
  | seize k lease fresh =>
    cases pending : Record.pending? now k fresh lease with
    | none => simpa only [scriptOf?, pending, Option.map_none] using found
    | some r =>
      simp only [scriptOf?, pending, Option.map_some, Script.execute_replace_eq]
      rw [Script.snd_replyAfter, Keyspace.live?_tryWrite_of_ne _ _ _ _ (other spared),
        Keyspace.live?_del, if_neg (other spared), found]
  | complete k owner outcome window =>
    cases inRange : now.deadline? window with
    | none => simpa only [scriptOf?, inRange, Option.map_none] using found
    | some ends =>
      simp only [scriptOf?, inRange, Option.map_some, Script.execute_complete_eq]
      split
      · rename_i held
        have ne : k ≠ key := by
          rintro rfl
          rw [field, field] at held
          exact spared rfl held.1 held.2
        rw [Script.snd_replyAfter, Keyspace.live?_tryWrite_of_ne _ _ _ _ (other ne), found]
      · exact found
  | release k owner =>
    simp only [scriptOf?, Script.execute_release]
    split
    · rename_i owned
      have ne : k ≠ key := by
        rintro rfl
        rw [field] at owned
        exact spared rfl owned
      rw [Keyspace.live?_del, if_neg (other ne), found]
    · exact found
  | read k => exact found
  | purge => exact found

/-- A hash that all calls let be stays as it is until its time to live is over. -/
theorem live?_keysAfterAll {calls : List Timed} {now later : Int}
    (found : keys.live? now (hashKey keyPrefix key) = some h)
    (chronological : calls.Pairwise (·.now.millis ≤ ·.now.millis))
    (after : ∀ t ∈ calls, now ≤ t.now.millis) (before : ∀ t ∈ calls, t.now.millis ≤ later)
    (le : now ≤ later) (there : ∀ t ∈ calls, Keyspace.isThere t.now.millis h = true)
    (spared : ∀ t ∈ calls, Spares key h t.call) :
    (keysAfterAll keyPrefix keys calls).live? later (hashKey keyPrefix key) =
      (some h).filter (Keyspace.isThere later) := by
  induction calls generalizing keys now with
  | nil => exact found ▸ keys.live?_of_le (hashKey keyPrefix key) le
  | cons t rest ih =>
    obtain ⟨first, others⟩ := List.pairwise_cons.1 chronological
    have reached : keys.live? t.now.millis (hashKey keyPrefix key) = some h := by
      rw [keys.live?_of_le _ (after t List.mem_cons_self), found, Option.filter_some,
        if_pos (there t List.mem_cons_self)]
    exact ih (live?_keysAfter reached (spared t List.mem_cons_self)) others first
      (fun u hu => before u (List.mem_cons_of_mem _ hu)) (before t List.mem_cons_self)
      (fun u hu => there u (List.mem_cons_of_mem _ hu))
      (fun u hu => spared u (List.mem_cons_of_mem _ hu))

end

/-! ## What all hashes share -/

/-- The times to live that a call asks for can be set. -/
def Settable (t : Timed) : Prop :=
  ∀ window ∈ t.call.window?, window.cappedMillis < Keyspace.expiryLimit

instance (t : Timed) : Decidable (Settable t) :=
  inferInstanceAs (Decidable (∀ window ∈ t.call.window?, _))

section

variable {P : Hash → Prop}

/-- What the calls of the store write has a property: fresh leases have it, and hashes that have it
keep it when an outcome is put into them. -/
structure Written (P : Hash → Prop) (t : Timed) : Prop where
  lease : ∀ key fresh window r, t.call.window? = some window →
    Record.pending? t.now key fresh window = some r →
      P ⟨.ofList (Record.Wire.encode r), some ⟨t.now.millis, window.cappedMillis⟩⟩
  outcome : ∀ outcome window ends h, t.call.window? = some window →
    t.now.deadline? window = some ends → P h →
      P ⟨(Record.Wire.outcomeFields outcome ends).foldl (fun f pair => f.insert pair.1 pair.2)
        h.fields, some ⟨t.now.millis, window.cappedMillis⟩⟩

/-- A call whose time to live can be set keeps a property that all hashes have. -/
theorem every_keysAfter (every : keys.Every P) (settable : Settable t) (written : Written P t) :
    (keysAfter keyPrefix keys t).Every P := by
  obtain ⟨now, call⟩ := t
  rw [keysAfter]
  cases call with
  | claim key lease fresh =>
    cases pending : Record.pending? now key fresh lease with
    | none => simpa only [scriptOf?, pending, Option.map_none] using every
    | some r =>
      simp only [scriptOf?, pending, Option.map_some,
        Script.execute_acquire _ _ _ (settable lease rfl)]
      cases found : keys.live? now.millis (hashKey keyPrefix key) with
      | some h => exact every
      | none =>
        refine every.write ?_
        rw [Keyspace.updated, Keyspace.fieldsAt_of_absent found]
        exact written.lease key fresh lease r rfl pending
  | seize key lease fresh =>
    cases pending : Record.pending? now key fresh lease with
    | none => simpa only [scriptOf?, pending, Option.map_none] using every
    | some r =>
      simp only [scriptOf?, pending, Option.map_some,
        Script.execute_replace _ _ _ (settable lease rfl)]
      refine (every.del _).write ?_
      have absent : (keys.del (hashKey keyPrefix key)).live? now.millis (hashKey keyPrefix key) =
          none := by
        rw [Keyspace.live?_del, if_pos rfl]
      rw [Keyspace.updated, Keyspace.fieldsAt_of_absent absent]
      exact written.lease key fresh lease r rfl pending
  | complete key owner outcome window =>
    cases inRange : now.deadline? window with
    | none => simpa only [scriptOf?, inRange, Option.map_none] using every
    | some ends =>
      simp only [scriptOf?, inRange, Option.map_some,
        Script.execute_complete _ _ _ (settable window rfl)]
      split
      · rename_i held
        obtain ⟨h, found, -⟩ := Option.bind_eq_some_iff.1 held.1
        refine every.write ?_
        rw [Keyspace.updated, Keyspace.fieldsAt_of_live? found]
        exact written.outcome outcome window ends h rfl inRange (every.of_live? found)
      · exact every
  | release key owner =>
    simp only [scriptOf?, Script.execute_release]
    split
    · exact every.del _
    · exact every
  | read key => exact every
  | purge => exact every

/-- Calls whose times to live can be set keep a property that all hashes have. -/
theorem every_keysAfterAll {calls : List Timed} (every : keys.Every P)
    (settable : ∀ t ∈ calls, Settable t) (written : ∀ t ∈ calls, Written P t) :
    (keysAfterAll keyPrefix keys calls).Every P := by
  induction calls generalizing keys with
  | nil => exact every
  | cons t rest ih =>
    refine ih ?_ (fun u hu => settable u (List.mem_cons_of_mem _ hu))
      (fun u hu => written u (List.mem_cons_of_mem _ hu))
    exact every_keysAfter every (settable t List.mem_cons_self) (written t List.mem_cons_self)

end

end Turnstile.Remote
