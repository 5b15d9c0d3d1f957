import Turnstile.Proofs.Record.Wire
import Turnstile.Proofs.Remote.Serving
import Turnstile.Proofs.Store.Sight

/-!
When the hashes of a server mirror what is seen of a store: each key's hash describes the record
that is seen of it and lives as long. Main statements: a mirror stays one as time passes
(`Mirrors.later`), it shows what is put under a key (`Mirrors.put`), and the client reads from it
what is seen (`Holds.decode`, `Mirrors.hget_eq`).
-/

namespace Turnstile.Remote

open Store

/-! ## Mirrors -/

/-- A hash holds a record of a key and lives as long as the record. -/
structure Holds (key : String) (r : Record) (h : Hash) : Prop where
  named : r.key = key
  portable : r.Portable
  described : Record.Wire.Describes h.fields r
  ends : ∃ e, h.expiry = some e ∧ e.setAt + e.millis = r.expiresAt.millis

/-- For each key the hash that is there holds the record that is seen, if any. -/
def Mirrors (keyPrefix : String) (keys : Keyspace) (v : Sight) (now : Instant) : Prop :=
  ∀ key, Option.Rel (Holds key) (v key) (keys.live? now.millis (hashKey keyPrefix key))

variable {keys keys' : Keyspace} {keyPrefix key : String} {v : Sight} {now : Instant}
  {r : Record} {h : Hash}

/-- A record and the hash that holds it end together. -/
theorem Holds.isThere_iff (holds : Holds key r h) (whole : now.Whole) :
    Keyspace.isThere now.millis h = !r.isExpiredAt now := by
  obtain ⟨e, expiry, ends⟩ := holds.ends
  have order := holds.portable.ends.le_iff_millis whole
  rw [← Instant.le_eq_true_iff, ← ends] at order
  rw [Keyspace.isThere, expiry, Option.any_some, Keyspace.Expiry.isOver, Record.isExpiredAt,
    Bool.not_inj_iff, Bool.eq_iff_iff, decide_eq_true_iff, order]

theorem Holds.rel_filter {r? : Option Record} {h? : Option Hash}
    (rel : Option.Rel (Holds key) r? h?) (whole : now.Whole) :
    Option.Rel (Holds key) (r?.filter fun r => !r.isExpiredAt now)
      (h?.filter (Keyspace.isThere now.millis)) := by
  cases rel with
  | none => exact .none
  | @some r h holds =>
    rw [Option.filter_some, Option.filter_some, holds.isThere_iff whole]
    split
    · exact .some holds
    · exact .none

/-- A mirror stays one as time passes. -/
theorem Mirrors.later {earlier : Instant} (h : Mirrors keyPrefix keys v earlier)
    (whole : earlier.Whole) (whole' : now.Whole) (le : earlier ≤ now) :
    Mirrors keyPrefix keys (v.later now) now := by
  intro key
  rw [Keyspace.live?_of_le keys _ ((whole.le_iff_millis whole').1 le)]
  exact Holds.rel_filter (h key) whole'

theorem Mirrors.later_self (h : Mirrors keyPrefix keys v now) (whole : now.Whole) :
    Mirrors keyPrefix keys (v.later now) now :=
  h.later whole whole (le_refl now)

/-- A hash that is put under a key mirrors the record that is put there. -/
theorem Mirrors.put {r? : Option Record} {h? : Option Hash} (h : Mirrors keyPrefix keys v now)
    (holds : Option.Rel (Holds key) r? h?)
    (changed : ∀ k, keys'.live? now.millis k =
      if k = hashKey keyPrefix key then h? else keys.live? now.millis k) :
    Mirrors keyPrefix keys' (v.put key r?) now := by
  intro k
  rw [changed]
  by_cases same : k = key
  · rw [same, if_pos rfl, Sight.put_self]
    exact holds
  · rw [if_neg fun e => same (hashKey_inj.1 e), v.put_of_ne _ same]
    exact h k

/-- A hash that is removed mirrors a key of which nothing is seen. -/
theorem Mirrors.del (h : Mirrors keyPrefix keys v now) (key : String) :
    Mirrors keyPrefix (keys.del (hashKey keyPrefix key)) (v.put key none) now :=
  h.put .none fun k => keys.live?_del (hashKey keyPrefix key) k

/-- Fields that describe a record, written with its time to live, mirror the record. -/
theorem Mirrors.write {n : Nat} {pairs : List (String × String)} (h : Mirrors keyPrefix keys v now)
    (whole : now.Whole) (named : r.key = key) (portable : r.Portable)
    (described : Record.Wire.Describes
      (keys.updated (hashKey keyPrefix key) now.millis pairs).fields r)
    (ends : r.expiresAt.millis = now.millis + n) :
    Mirrors keyPrefix (keys.write (hashKey keyPrefix key) now.millis n pairs)
      ((v.put key (some r)).later now) now := by
  have holds : Holds key r
      ⟨(keys.updated (hashKey keyPrefix key) now.millis pairs).fields, some ⟨now.millis, n⟩⟩ :=
    ⟨named, portable, described, _, rfl, ends.symm⟩
  rw [Sight.later_put]
  exact (h.later_self whole).put (Holds.rel_filter (.some holds) whole)
    fun k => keys.live?_write (hashKey keyPrefix key) n pairs k

/-! ## What the client reads -/

/-- The record that a hash holds is decoded from its fields. -/
theorem Holds.decode (holds : Holds key r h) :
    Record.Wire.decode key h.fields.entries = .ok (some r) := by
  have described : Record.Wire.Describes (.ofList h.fields.entries) r := by
    intro pair written
    rw [Table.find?_ofList_entries]
    exact holds.described pair written
  rw [← holds.named]
  exact Record.Wire.decode_of_describes holds.portable described

/-- The acquire script's texts are read as the record that stands in the way. -/
theorem Holds.claimOf_texts (holds : Holds key r h) (owner : Token) :
    claimOf key owner (Keyspace.texts h.fields.entries) = .ok (.conflict r) := by
  have some_text : (Keyspace.texts h.fields.entries).isEmpty = false := by
    have state := holds.described.state
    rw [Table.find?] at state
    cases entries : h.fields.entries with
    | nil =>
      rw [entries] at state
      cases state
    | cons pair rest => rfl
  simp only [claimOf, some_text, Keyspace.pairUp_texts, holds.decode]
  rfl

/-- A field that every hash has for its record is seen as part of the record. -/
theorem Mirrors.hget_eq (mirrors : Mirrors keyPrefix keys v now) (key : String) {field : String}
    {text : Record → String}
    (written : ∀ {r h}, Holds key r h → h.fields.find? field = some (text r)) :
    keys.hget now.millis (hashKey keyPrefix key) field = (v key).map text := by
  have rel := mirrors key
  rw [Keyspace.hget]
  generalize v key = r?, keys.live? now.millis (hashKey keyPrefix key) = h? at rel
  cases rel with
  | none => rfl
  | some holds => exact written holds

/-- The scripts' test for an owner is the test for the owner of the record that is seen. -/
theorem Mirrors.hget_owner_iff (mirrors : Mirrors keyPrefix keys v now) (key : String)
    (owner : Token) :
    keys.hget now.millis (hashKey keyPrefix key) "owner" = some owner.text ↔
      (v key).any (·.isOwnedBy owner) = true := by
  rw [mirrors.hget_eq key fun holds => holds.described.owner]
  cases v key with
  | none => simp
  | some r => simp [Record.isOwnedBy, Token.text_inj]

/-- The script's test for a pending hash is the test for a pending record. -/
theorem Mirrors.hget_state_iff (mirrors : Mirrors keyPrefix keys v now) (key : String) :
    keys.hget now.millis (hashKey keyPrefix key) "state" = some "PENDING" ↔
      (v key).any (·.isPending) = true := by
  rw [mirrors.hget_eq key fun holds => holds.described.state]
  cases v key with
  | none => simp
  | some r =>
    cases pending : r.state <;> simp [Record.isPending, pending, Record.State.text]

end Turnstile.Remote
