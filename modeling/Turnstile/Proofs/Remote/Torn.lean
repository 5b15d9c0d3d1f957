import Turnstile.Proofs.Remote.Upkeep

/-!
Calls that are cut short. A script sets the fields of a hash before its time to live, and a time to
live that is too long raises an error that undoes nothing. Main statement: a call that fails changes
nothing and every hash has a time to live, as long as every time to live that is asked for can be
set; a lease with a longer one fails and leaves its key pending for good (`unchanged_of_settable`).
-/

namespace Turnstile.Remote

open Store

variable {keyPrefix key : String} {keys : Keyspace} {now : Instant} {window : Span}
  {fresh owner : Token} {r : Record} {h : Hash}

/-! ## Times to live that can be set -/

/-- A call whose time to live can be set fails only if it changes nothing. -/
theorem state_eq_of_failed {t : Timed} {fault : Fault} (settable : Settable t)
    (failed : ((store keyPrefix).perform (serving keys) t).result = .failed fault) :
    ((store keyPrefix).perform (serving keys) t).state = serving keys := by
  rw [state_perform, keysAfter]
  congr 1
  obtain ⟨now, call⟩ := t
  cases call with
  | claim key lease fresh =>
    cases pending : Record.pending? now key fresh lease with
    | none => simp only [scriptOf?, pending, Option.map_none]
    | some r =>
      have executed := Script.execute_acquire keys now.millis (hashKey keyPrefix key)
        (settable lease rfl) (Record.Wire.encode r)
      simp only [scriptOf?, pending, Option.map_some]
      cases found : keys.live? now.millis (hashKey keyPrefix key) with
      | some existing =>
        rw [found] at executed
        rw [executed]
      | none =>
        rw [found] at executed
        simp only [perform, perform.as, store] at failed
        rw [claim_serving (m := ⟨now, fresh⟩) pending executed rfl] at failed
        cases failed
  | seize key lease fresh =>
    cases pending : Record.pending? now key fresh lease with
    | none => simp only [scriptOf?, pending, Option.map_none]
    | some r =>
      have executed := Script.execute_replace keys now.millis (hashKey keyPrefix key)
        (settable lease rfl) (Record.Wire.encode r)
      simp only [perform, perform.as, store] at failed
      rw [seize_serving (m := ⟨now, fresh⟩) pending executed rfl] at failed
      cases failed
  | complete key owner outcome window =>
    cases inRange : now.deadline? window with
    | none => simp only [scriptOf?, inRange, Option.map_none]
    | some ends =>
      have executed := Script.execute_complete keys now.millis (hashKey keyPrefix key)
        (settable window rfl) owner.text (Text.writeNat outcome.status.toNat) outcome.payload.text
        (Text.writeInt ends.millis)
      simp only [perform, perform.as, store] at failed
      split at executed <;>
        (rw [complete_serving inRange executed rfl] at failed
         cases failed)
  | release key owner =>
    have executed := Script.execute_release keys now.millis (hashKey keyPrefix key) owner.text
    simp only [perform, perform.as, store] at failed
    split at executed <;>
      (rw [release_serving executed rfl] at failed
       cases failed)
  | read key => rfl
  | purge => rfl

/-- A hash with a time to live goes away when it is over. -/
theorem live?_eq_none_of_expiry {e : Expiry} {later : Int} (found : keys.hashes.find? key = some h)
    (ttl : h.expiry = some e) (ended : e.setAt + e.millis ≤ later) :
    keys.live? later key = none := by
  have gone : Keyspace.isThere later h = false := by
    simp [Keyspace.isThere, ttl, Keyspace.Expiry.isOver, ended]
  rw [Keyspace.live?_eq, found, Option.filter_some, gone, if_neg Bool.false_ne_true]

/-- Calls whose times to live can be set write no hash without one. -/
theorem exists_expiry_run {calls : List Timed} (settable : ∀ t ∈ calls, Settable t)
    (found : (keysAfterAll keyPrefix .empty calls).hashes.find? key = some h) :
    ∃ e, h.expiry = some e := by
  have every : (keysAfterAll keyPrefix .empty calls).Every fun h => h.expiry.isSome = true :=
    every_keysAfterAll .empty settable fun t _ => ⟨fun _ _ _ _ _ _ => rfl, fun _ _ _ _ _ _ _ => rfl⟩
  exact Option.isSome_iff_exists.1 (every key h found)

/-! ## Times to live that are too long -/

/-- A script that is cut short is reported as a fault of the server. -/
theorem invoke_of_rangeError {script : Script Reply} {keys' : Keyspace}
    (executed : script.execute keys = (.error Keyspace.rangeError, keys')) :
    invoke (serving keys) script = (.error (.server Keyspace.rangeError), serving keys') := by
  have known : (script.execute keys).1.isUnknownScript = false := by
    rw [executed]
    exact isUnknownScript_rangeError
  rw [invoke_of_known known, executed]
  rfl

/-- A call fails because its time to live is too long, and still leaves other keys behind. -/
structure Torn (keyPrefix : String) (keys : Keyspace) (t : Timed) (keys' : Keyspace) : Prop where
  failed : ((store keyPrefix).perform (serving keys) t).result =
    .failed (.server Keyspace.rangeError)
  left : ((store keyPrefix).perform (serving keys) t).state = serving keys'

section

variable (long : Keyspace.expiryLimit ≤ window.cappedMillis)

include long

/-- A claim of a free key with too long a time to live fails and leaves the lease. -/
theorem claim_torn (pending : Record.pending? now key fresh window = some r)
    (free : keys.live? now.millis (hashKey keyPrefix key) = none) :
    Torn keyPrefix keys ⟨now, .claim key window fresh⟩
      (keys.hset now.millis (hashKey keyPrefix key) (Record.Wire.encode r)) := by
  have executed : (Script.acquire now.millis (hashKey keyPrefix key) window.cappedMillis
      (Record.Wire.encode r)).execute keys = (.error Keyspace.rangeError,
        keys.hset now.millis (hashKey keyPrefix key) (Record.Wire.encode r)) := by
    rw [Script.execute_acquire_eq, free, Keyspace.tryWrite_of_le _ _ long]
    rfl
  constructor <;>
    simp only [perform, perform.as, store, claim, pending, invoke_of_rangeError executed] <;> rfl

/-- Seizing a key with too long a time to live fails and leaves the lease. -/
theorem seize_torn (pending : Record.pending? now key fresh window = some r) :
    Torn keyPrefix keys ⟨now, .seize key window fresh⟩
      ((keys.del (hashKey keyPrefix key)).hset now.millis (hashKey keyPrefix key)
        (Record.Wire.encode r)) := by
  have executed : (Script.replace now.millis (hashKey keyPrefix key) window.cappedMillis
      (Record.Wire.encode r)).execute keys = (.error Keyspace.rangeError,
        (keys.del (hashKey keyPrefix key)).hset now.millis (hashKey keyPrefix key)
          (Record.Wire.encode r)) := by
    rw [Script.execute_replace_eq, Keyspace.tryWrite_of_le _ _ long]
    rfl
  constructor <;>
    simp only [perform, perform.as, store, seize, pending, invoke_of_rangeError executed] <;> rfl

/-- A completion with too long a time to live fails and leaves the outcome. -/
theorem complete_torn {outcome : Outcome} {ends : Instant}
    (inRange : now.deadline? window = some ends)
    (owned : keys.hget now.millis (hashKey keyPrefix key) "owner" = some owner.text)
    (pending : keys.hget now.millis (hashKey keyPrefix key) "state" = some "PENDING") :
    Torn keyPrefix keys ⟨now, .complete key owner outcome window⟩
      (keys.hset now.millis (hashKey keyPrefix key) (Record.Wire.outcomeFields outcome ends)) := by
  have executed : (Script.complete now.millis (hashKey keyPrefix key) owner.text
      (Text.writeNat outcome.status.toNat) outcome.payload.text (Text.writeInt ends.millis)
      window.cappedMillis).execute keys = (.error Keyspace.rangeError,
        keys.hset now.millis (hashKey keyPrefix key) (Record.Wire.outcomeFields outcome ends)) := by
    rw [Script.execute_complete_eq, if_pos ⟨owned, pending⟩, Keyspace.tryWrite_of_le _ _ long]
    rfl
  constructor <;>
    simp only [perform, perform.as, store, complete, inRange, invoke_of_rangeError executed] <;> rfl

end

/-! ## A key that is never free again -/

/-- The hash of a lease whose time to live was not set. -/
def unending (r : Record) : Hash := ⟨.ofList (Record.Wire.encode r), none⟩

/-- Fields that are set on a free key are all that its hash has. -/
theorem live?_hset_of_absent {k : String} (free : keys.live? now.millis k = none) :
    (keys.hset now.millis k (Record.Wire.encode r)).live? now.millis k = some (unending r) := by
  rw [Keyspace.live?_hset, if_pos rfl, Keyspace.updated, Keyspace.fieldsAt_of_absent free, free]
  rfl

theorem entries_unending_ne_nil (r : Record) : (unending r).fields.entries ≠ [] := by
  intro none_written
  have state := (Record.Wire.describes_insert_all .empty r).state
  change (unending r).fields.find? "state" = _ at state
  rw [Table.find?, none_written] at state
  cases state

/-- A claim of a key whose hash is there is not granted. -/
theorem not_acquired_of_live? (found : keys.live? now.millis (hashKey keyPrefix key) = some h)
    (some_field : h.fields.entries ≠ []) (owner : Token) :
    ((store keyPrefix).perform (serving keys) ⟨now, .claim key window fresh⟩).result ≠
      .done (.claim (.acquired owner)) := by
  cases pending : Record.pending? now key fresh window with
  | none => simp [perform, perform.as, store, claim, pending, Attempt.map]
  | some r =>
    have executed := Script.execute_acquire_eq keys now.millis (hashKey keyPrefix key)
      window.cappedMillis (Record.Wire.encode r)
    rw [found] at executed
    have some_text : (Keyspace.texts h.fields.entries).isEmpty = false := by
      cases entries : h.fields.entries with
      | nil => exact absurd entries some_field
      | cons pair rest => rfl
    simp only [perform, perform.as, store]
    rw [claim_serving (m := ⟨now, fresh⟩) pending executed (Keyspace.error?_flatten _)]
    simp only [observed, interpret, Except.bind, Keyspace.texts?_flatten, Option.elim_some,
      claimOf, some_text, Bool.false_eq_true, if_false, Keyspace.pairUp_texts]
    rcases Record.Wire.decode key h.fields.entries with fault | _ | existing <;>
      simp [attempt, Attempt.map]

/-- From a time on, a hash stands under a key, and no claim of the key is granted, as long as all
calls let the hash be. -/
def Stuck (keyPrefix : String) (keys : Keyspace) (now : Instant) (key : String) (h : Hash) : Prop :=
  ∀ (calls : List Timed) (later : Instant), calls.Pairwise (·.now.millis ≤ ·.now.millis) →
    (∀ t ∈ calls, now.millis ≤ t.now.millis ∧ t.now.millis ≤ later.millis) →
    now.millis ≤ later.millis → (∀ t ∈ calls, Spares key h t.call) →
    ∃ keys', ((Journaled.of (serving keys)).run (store keyPrefix) calls).inner = serving keys' ∧
      keys'.live? later.millis (hashKey keyPrefix key) = some h ∧
      ∀ lease fresh owner,
        ((store keyPrefix).perform (serving keys') ⟨later, .claim key lease fresh⟩).result ≠
          .done (.claim (.acquired owner))

/-- A hash without a time to live blocks its key. -/
theorem stuck_of_expiry_none
    (found : keys.live? now.millis (hashKey keyPrefix key) = some h) (forever : h.expiry = none)
    (some_field : h.fields.entries ≠ []) : Stuck keyPrefix keys now key h := by
  intro calls later chronological between le spared
  have there : ∀ now, Keyspace.isThere now h = true :=
    fun _ => Keyspace.isThere_of_expiry_none forever
  have stays := live?_keysAfterAll found chronological
    (fun t ht => (between t ht).1) (fun t ht => (between t ht).2) le (fun t _ => there _) spared
  rw [Option.filter_some, if_pos (there _)] at stays
  exact ⟨_, inner_run keyPrefix rfl calls, stays,
    fun _ _ owner => not_acquired_of_live? stays some_field owner⟩

/-- A lease whose time to live was not set blocks its key. -/
theorem stuck_unending (free : keys.live? now.millis (hashKey keyPrefix key) = none) :
    Stuck keyPrefix (keys.hset now.millis (hashKey keyPrefix key) (Record.Wire.encode r)) now key
      (unending r) :=
  stuck_of_expiry_none (live?_hset_of_absent free) rfl (entries_unending_ne_nil r)

/-! ## All calls -/

/-- As long as every time to live that is asked for can be set, a call that fails leaves the server
as it was, and every hash has a time to live and is gone when it is over. With a longer one, a claim
of a free key, a seizure, and the completion of a lease by its holder fail after their fields were
set; a key that was claimed or seized so is blocked by a hash without a time to live. -/
theorem unchanged_of_settable (keyPrefix : String) :
    (∀ keys t fault, Settable t →
      ((store keyPrefix).perform (serving keys) t).result = .failed fault →
      ((store keyPrefix).perform (serving keys) t).state = serving keys) ∧
    (∀ calls : List Timed, (∀ t ∈ calls, Settable t) → ∃ keys,
      ((Journaled.of (serving .empty)).run (store keyPrefix) calls).inner = serving keys ∧
      ∀ key h, keys.hashes.find? key = some h → ∃ e, h.expiry = some e ∧
        ∀ later, e.setAt + e.millis ≤ later → keys.live? later key = none) ∧
    ∀ (keys : Keyspace) (now : Instant) (key : String) (window : Span),
      Keyspace.expiryLimit ≤ window.cappedMillis →
      (∀ fresh r, Record.pending? now key fresh window = some r →
        keys.live? now.millis (hashKey keyPrefix key) = none →
        ∃ left, Torn keyPrefix keys ⟨now, .claim key window fresh⟩ left ∧
          Stuck keyPrefix left now key (unending r)) ∧
      (∀ fresh r, Record.pending? now key fresh window = some r →
        ∃ left, Torn keyPrefix keys ⟨now, .seize key window fresh⟩ left ∧
          Stuck keyPrefix left now key (unending r)) ∧
      ∀ owner outcome ends, now.deadline? window = some ends →
        keys.hget now.millis (hashKey keyPrefix key) "owner" = some owner.text →
        keys.hget now.millis (hashKey keyPrefix key) "state" = some "PENDING" →
        Torn keyPrefix keys ⟨now, .complete key owner outcome window⟩
          (keys.hset now.millis (hashKey keyPrefix key)
            (Record.Wire.outcomeFields outcome ends)) := by
  refine ⟨fun _ _ _ => state_eq_of_failed, ?passing, ?long⟩
  case passing =>
    intro calls settable
    refine ⟨_, inner_run keyPrefix rfl calls, ?_⟩
    intro key h found
    obtain ⟨e, ttl⟩ := exists_expiry_run settable found
    exact ⟨e, ttl, fun later => live?_eq_none_of_expiry found ttl⟩
  case long =>
    intro keys now key window long
    refine ⟨?claim, ?seize, ?complete⟩
    case claim =>
      intro fresh r pending free
      exact ⟨_, claim_torn long pending free, stuck_unending free⟩
    case seize =>
      intro fresh r pending
      have free : (keys.del (hashKey keyPrefix key)).live? now.millis (hashKey keyPrefix key) =
          none := by
        rw [Keyspace.live?_del, if_pos rfl]
      exact ⟨_, seize_torn long pending, stuck_unending free⟩
    case complete =>
      intro owner outcome ends inRange owned pending
      exact complete_torn long inRange owned pending

/-- Fields that describe no record stand in the way of a claim, which fails. -/
def foreign : Keyspace := Keyspace.empty.hset 0 "guard:k" [("colour", "red")]

/-- A lease of ten milliseconds. -/
def tenMillis : Timed := ⟨.epoch, .claim "k" (.ofMillis 10) (.serial 1)⟩

/-- A lease of more milliseconds than the server takes. -/
def endless : Timed := ⟨.epoch, .claim "k" (.ofMillis (Nat.pow 2 63)) (.serial 1)⟩

/-- A claim that fails changes nothing, a lease of ten milliseconds goes away, `endless` blocks its
key, and an outcome that is cached for as long is left when its call fails. -/
theorem unchanged_of_settable_endless :
    (((store "guard").perform (serving foreign) tenMillis).state = serving foreign) ∧
    (∃ keys, ((Journaled.of (serving .empty)).run (store "guard") [tenMillis]).inner =
        serving keys ∧
      ∀ key h, keys.hashes.find? key = some h → ∃ e, h.expiry = some e ∧
        ∀ later, e.setAt + e.millis ≤ later → keys.live? later key = none) ∧
    (∃ r left, Torn "guard" .empty endless left ∧ Stuck "guard" left .epoch "k" (unending r)) ∧
    ∃ left, Torn "guard" (keysAfter "guard" .empty tenMillis)
      ⟨.epoch, .complete "k" (.serial 1) ⟨200, .null⟩ (.ofMillis (Nat.pow 2 63))⟩ left := by
  have refused : Keyspace.expiryLimit ≤ (Span.ofMillis (Nat.pow 2 63)).cappedMillis := by decide
  have settable : Settable tenMillis := by decide
  obtain ⟨unchanged, passing, long⟩ := unchanged_of_settable "guard"
  refine ⟨?foreign, ?ten, ?endless, ?outcome⟩
  case foreign =>
    exact unchanged foreign tenMillis (Record.Wire.missing "state") settable rfl
  case ten =>
    exact passing [tenMillis] (by simpa using settable)
  case endless =>
    obtain ⟨claimed, -, -⟩ := long .empty .epoch "k" (.ofMillis (Nat.pow 2 63)) refused
    exact ⟨_, claimed (.serial 1) _ rfl rfl⟩
  case outcome =>
    obtain ⟨-, -, completed⟩ := long (keysAfter "guard" .empty tenMillis) .epoch "k"
      (.ofMillis (Nat.pow 2 63)) refused
    exact ⟨_, completed (.serial 1) ⟨200, .null⟩ _ rfl rfl rfl⟩

/-- Not every call that fails leaves the server as it was, and not every hash that calls leave has a
time to live: `endless` fails on a server without keys and leaves a lease for good. -/
theorem changed_endless :
    (¬ ∀ keys t fault, ((store "guard").perform (serving keys) t).result = .failed fault →
      ((store "guard").perform (serving keys) t).state = serving keys) ∧
    ¬ ∀ calls keys, ((Journaled.of (serving .empty)).run (store "guard") calls).inner =
      serving keys → ∀ key h, keys.hashes.find? key = some h → ∃ e, h.expiry = some e := by
  have refused : Keyspace.expiryLimit ≤ (Span.ofMillis (Nat.pow 2 63)).cappedMillis := by decide
  have free : Keyspace.empty.live? Instant.epoch.millis (hashKey "guard" "k") = none := rfl
  obtain ⟨r, pending⟩ : ∃ r, Record.pending? .epoch "k" (.serial 1) (.ofMillis (Nat.pow 2 63)) =
    some r := ⟨_, rfl⟩
  have torn := claim_torn refused pending free
  have left := live?_hset_of_absent (r := r) free
  have found := (Option.filter_eq_some_iff.1 left).1
  constructor
  · intro unchanged
    have same := unchanged .empty endless _ torn.failed
    rw [show ((store "guard").perform (serving .empty) endless).state = _ from torn.left] at same
    rw [State.mk.inj same |>.1] at found
    cases found
  · intro passing
    obtain ⟨e, ttl⟩ := passing [endless] _ torn.left _ _ found
    cases ttl

end Turnstile.Remote
