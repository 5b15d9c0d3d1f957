import Turnstile.Proofs.Memory.Sight
import Turnstile.Proofs.Remote.Mirror

/-!
The store in memory and the store on a server cannot be told apart. Every call of the store on a
server answers what `Sight.next` says and leaves a mirror of what it says (`perform_agrees`); the
store in memory does the same, purged or not. Main statement: on a clock of whole milliseconds both
give the same answers to the same calls (`journal_eq_of_portable`).
-/

namespace Turnstile

namespace Store

/-- The outcome that a call brings. -/
def Call.outcome? : Call → Option Outcome
  | .complete _ _ outcome _ => some outcome
  | _ => none

/-- A call that both stores can take alike: it comes at a whole millisecond, asks for a window of
whole milliseconds whose end is in range, and brings a payload that survives its text. -/
structure Timed.Portable (t : Timed) : Prop where
  whole : t.now.Whole
  window : ∀ window ∈ t.call.window?, window.Fits t.now ∧ ∃ n, window = .ofMillis n
  payload : ∀ outcome ∈ t.call.outcome?, outcome.payload.Portable

theorem Timed.Portable.inRange {t : Timed} (h : t.Portable) : t.InRange :=
  fun window asked => (h.window window asked).1.inRange

/-- A call whose window is in range is answered. -/
theorem Sight.exists_answer (v : Sight) {t : Timed} (inRange : t.InRange) :
    ∃ a, (v.next t).2 = .done a := by
  obtain ⟨now, call⟩ := t
  cases call with
  | claim key lease fresh =>
    obtain ⟨ends, hends⟩ := (inRange lease rfl).exists_deadline?
    simp only [next, grant, Record.pending?, hends]
    split <;> exact ⟨_, rfl⟩
  | seize key lease fresh =>
    obtain ⟨ends, hends⟩ := (inRange lease rfl).exists_deadline?
    simp only [next, grant, Record.pending?, hends]
    exact ⟨_, rfl⟩
  | complete key owner outcome window =>
    exact ⟨_, v.snd_next_complete key owner outcome (inRange window rfl)⟩
  | release key owner => exact ⟨_, v.snd_next_release now key owner⟩
  | read key => exact ⟨_, rfl⟩
  | purge => exact ⟨_, rfl⟩

end Store

namespace Span.Fits

variable {n : Nat} {now : Instant}

/-- A window of whole milliseconds that fits is short enough for the server. -/
theorem lt_expiryLimit (fits : (Span.ofMillis n).Fits now) : n < Keyspace.expiryLimit := by
  have long := fits.1
  simp only [Span.ofMillis, Span.longest] at long
  have le : n ≤ Nat.pow 2 63 - 1 := Nat.le_of_mul_le_mul_right long (by decide)
  exact Nat.lt_of_le_of_lt le (by decide)

/-- The number of milliseconds that the server is given. -/
theorem cappedMillis_eq (fits : (Span.ofMillis n).Fits now) :
    (Span.ofMillis n).cappedMillis = n := by
  rw [Span.cappedMillis, Span.millis_ofMillis, Nat.min_eq_left]
  exact Nat.le_trans (Nat.le_of_lt fits.lt_expiryLimit) (by decide)

theorem cappedMillis_lt (fits : (Span.ofMillis n).Fits now) :
    (Span.ofMillis n).cappedMillis < Keyspace.expiryLimit := by
  rw [fits.cappedMillis_eq]
  exact fits.lt_expiryLimit

end Span.Fits

namespace Remote

open Store

/-- A step that answers what is expected and leaves a mirror of what is expected to be seen. -/
structure Agrees (keyPrefix : String) (now : Instant) (step : Step State Answer)
    (next : Sight × Attempt Answer) : Prop where
  answer : step.result = next.2
  mirror : ∃ keys, step.state = serving keys ∧ Mirrors keyPrefix keys (next.1.later now) now

/-! ## Single calls -/

/-- A window that fits gives a fresh lease. -/
theorem exists_pending? {now : Instant} {window : Span} (fits : window.Fits now) (key : String)
    (owner : Token) : ∃ r, Record.pending? now key owner window = some r := by
  obtain ⟨ends, hends⟩ := fits.inRange.exists_deadline?
  exact ⟨_, by rw [Record.pending?, hends, Option.map_some]⟩

section

variable {keyPrefix : String} {keys : Keyspace} {v : Sight} {now : Instant}

theorem claim_agrees (mirrors : Mirrors keyPrefix keys v now) (whole : now.Whole) (key : String)
    {n : Nat} (fits : (Span.ofMillis n).Fits now) (fresh : Token) :
    Agrees keyPrefix now
      (perform (store keyPrefix) (serving keys) ⟨now, .claim key (.ofMillis n) fresh⟩)
      (v.next ⟨now, .claim key (.ofMillis n) fresh⟩) := by
  obtain ⟨r, pending⟩ := exists_pending? fits key fresh
  obtain ⟨portable, named, ends⟩ := Record.portable_of_pending? whole fits pending
  have executed := Script.execute_acquire keys now.millis (hashKey keyPrefix key)
    fits.cappedMillis_lt (Record.Wire.encode r)
  have rel := mirrors key
  simp only [perform, perform.as, store, Sight.next]
  generalize seen : v key = r?, found : keys.live? now.millis (hashKey keyPrefix key) = h? at rel
  cases rel with
  | none =>
    rw [found] at executed
    rw [claim_serving (m := ⟨now, fresh⟩) pending executed rfl]
    simp only [Sight.grant, pending, fits.cappedMillis_eq]
    refine ⟨rfl, _, rfl, mirrors.write whole named portable ?_ ends⟩
    exact Record.Wire.describes_insert_all _ r
  | @some existing h holds =>
    rw [found] at executed
    rw [claim_serving (m := ⟨now, fresh⟩) pending executed (Keyspace.error?_flatten _)]
    refine ⟨?_, keys, rfl, mirrors.later_self whole⟩
    simp only [observed, interpret, Except.bind, Keyspace.texts?_flatten, Option.elim_some,
      holds.claimOf_texts]
    rfl

theorem seize_agrees (mirrors : Mirrors keyPrefix keys v now) (whole : now.Whole) (key : String)
    {n : Nat} (fits : (Span.ofMillis n).Fits now) (fresh : Token) :
    Agrees keyPrefix now
      (perform (store keyPrefix) (serving keys) ⟨now, .seize key (.ofMillis n) fresh⟩)
      (v.next ⟨now, .seize key (.ofMillis n) fresh⟩) := by
  obtain ⟨r, pending⟩ := exists_pending? fits key fresh
  obtain ⟨portable, named, ends⟩ := Record.portable_of_pending? whole fits pending
  have executed := Script.execute_replace keys now.millis (hashKey keyPrefix key)
    fits.cappedMillis_lt (Record.Wire.encode r)
  simp only [perform, perform.as, store, Sight.next, Sight.grant, pending]
  rw [seize_serving (m := ⟨now, fresh⟩) pending executed rfl, fits.cappedMillis_eq]
  refine ⟨rfl, _, rfl, ?_⟩
  rw [← v.put_put key none]
  refine (mirrors.del key).write whole named portable ?_ ends
  exact Record.Wire.describes_insert_all _ r

theorem complete_agrees (mirrors : Mirrors keyPrefix keys v now) (whole : now.Whole) (key : String)
    {n : Nat} (fits : (Span.ofMillis n).Fits now) (owner : Token) {outcome : Outcome}
    (payload : outcome.payload.Portable) :
    Agrees keyPrefix now
      (perform (store keyPrefix) (serving keys) ⟨now, .complete key owner outcome (.ofMillis n)⟩)
      (v.next ⟨now, .complete key owner outcome (.ofMillis n)⟩) := by
  obtain ⟨ends, hends⟩ := fits.inRange.exists_deadline?
  have executed := Script.execute_complete keys now.millis (hashKey keyPrefix key)
    fits.cappedMillis_lt owner.text (Text.writeNat outcome.status.toNat) outcome.payload.text
    (Text.writeInt ends.millis)
  simp only [mirrors.hget_owner_iff, mirrors.hget_state_iff] at executed
  have rel := mirrors key
  simp only [perform, perform.as, store, hends, Sight.next]
  generalize seen : v key = r?, found : keys.live? now.millis (hashKey keyPrefix key) = h? at *
  cases rel with
  | none =>
    rw [complete_serving hends executed rfl]
    exact ⟨rfl, keys, rfl, mirrors.later_self whole⟩
  | @some r h holds =>
    by_cases held : (r.isOwnedBy owner && r.isPending) = true
    · have both : r.isOwnedBy owner = true ∧ r.isPending = true := by simpa using held
      simp only [Option.any_some, both, and_self, if_true] at executed
      rw [complete_serving hends executed rfl, fits.cappedMillis_eq]
      simp only [held, if_true]
      have later := whole.add? (fits.deadline?_eq ▸ hends)
      refine ⟨rfl, _, rfl, mirrors.write whole holds.named
        (holds.portable.withOutcome payload later.1) ?_ later.2⟩
      have fields : keys.fieldsAt (hashKey keyPrefix key) now.millis = h.fields := by
        rw [Keyspace.fieldsAt, found, Option.elim_some]
      rw [Keyspace.updated, fields]
      exact holds.described.withOutcome outcome ends
    · have lost : ¬(r.isOwnedBy owner = true ∧ r.isPending = true) := by simpa using held
      simp only [Option.any_some, lost, if_false] at executed
      rw [complete_serving hends executed rfl]
      simp only [held]
      exact ⟨rfl, keys, rfl, mirrors.later_self whole⟩

theorem release_agrees (mirrors : Mirrors keyPrefix keys v now) (whole : now.Whole) (key : String)
    (owner : Token) :
    Agrees keyPrefix now (perform (store keyPrefix) (serving keys) ⟨now, .release key owner⟩)
      (v.next ⟨now, .release key owner⟩) := by
  have executed := Script.execute_release keys now.millis (hashKey keyPrefix key) owner.text
  simp only [mirrors.hget_owner_iff] at executed
  simp only [perform, perform.as, store, Sight.next]
  by_cases owned : (v key).any (·.isOwnedBy owner) = true
  · rw [if_pos owned] at executed ⊢
    rw [release_serving executed rfl]
    exact ⟨rfl, _, rfl, (mirrors.del key).later_self whole⟩
  · rw [if_neg owned] at executed ⊢
    rw [release_serving executed rfl]
    exact ⟨rfl, keys, rfl, mirrors.later_self whole⟩

theorem read_agrees (mirrors : Mirrors keyPrefix keys v now) (whole : now.Whole) (key : String) :
    Agrees keyPrefix now (perform (store keyPrefix) (serving keys) ⟨now, .read key⟩)
      (v.next ⟨now, .read key⟩) := by
  have rel := mirrors key
  simp only [perform, perform.as, store, read_serving, Sight.next]
  refine ⟨?_, keys, rfl, mirrors.later_self whole⟩
  simp only [observed, Keyspace.hgetall]
  generalize seen : v key = r?, found : keys.live? now.millis (hashKey keyPrefix key) = h? at rel
  cases rel with
  | none => rfl
  | @some r h holds =>
    rw [Option.elim_some, holds.decode]
    rfl

/-- Every call but a purge is answered as expected, and what is seen after it is mirrored. -/
theorem perform_agrees {t : Timed} (mirrors : Mirrors keyPrefix keys v t.now)
    (portable : t.Portable) (kept : t.call.isPurge = false) :
    Agrees keyPrefix t.now (perform (store keyPrefix) (serving keys) t) (v.next t) := by
  obtain ⟨now, call⟩ := t
  obtain ⟨whole, window, payload⟩ := portable
  cases call with
  | claim key lease fresh =>
    obtain ⟨fits, n, rfl⟩ := window lease rfl
    exact claim_agrees mirrors whole key fits fresh
  | seize key lease fresh =>
    obtain ⟨fits, n, rfl⟩ := window lease rfl
    exact seize_agrees mirrors whole key fits fresh
  | complete key owner outcome lease =>
    obtain ⟨fits, n, rfl⟩ := window lease rfl
    exact complete_agrees mirrors whole key fits owner (payload outcome rfl)
  | release key owner => exact release_agrees mirrors whole key owner
  | read key => exact read_agrees mirrors whole key
  | purge => cases kept

end

/-! ## Runs -/

/-- Two journaled stores that took the same calls, save purges of the first, were answered alike,
and the server of the second mirrors what is seen of the first. -/
structure Coupled (keyPrefix : String) (now : Instant) (s : Journaled Memory.State)
    (s' : Journaled State) : Prop where
  mirror : ∃ keys, s'.inner = serving keys ∧
    Mirrors keyPrefix keys (Memory.sight s.inner now) now
  journal : s'.journal = s.journal.filter (!·.call.isPurge)
  answered : ∀ e ∈ s'.journal, ∃ a, e.answer = .done a

namespace Coupled

variable {keyPrefix : String} {now : Instant} {s : Journaled Memory.State} {s' : Journaled State}
  {t : Timed}

theorem later {earlier : Instant} (h : Coupled keyPrefix earlier s s') (whole : earlier.Whole)
    (whole' : now.Whole) (le : earlier ≤ now) : Coupled keyPrefix now s s' := by
  obtain ⟨keys, inner, mirrors⟩ := h.mirror
  refine ⟨⟨keys, inner, ?_⟩, h.journal, h.answered⟩
  rw [Memory.sight_of_le _ le]
  exact mirrors.later whole whole' le

/-- A purge in memory changes nothing that is seen. -/
theorem purge (h : Coupled keyPrefix t.now s s') (purged : t.call.isPurge = true) :
    Coupled keyPrefix t.now (s.take Memory.store t) s' := by
  obtain ⟨now, call⟩ := t
  cases call with
  | purge =>
    obtain ⟨keys, inner, mirrors⟩ := h.mirror
    refine ⟨⟨keys, inner, ?_⟩, ?_, h.answered⟩
    · show Mirrors keyPrefix keys (Memory.sight (Memory.purge s.inner now).state now) now
      rw [Memory.sight_purge]
      exact mirrors
    · rw [Journaled.journal_take, List.filter_append, h.journal]
      simp [Journaled.entry, Call.isPurge]
  | claim key lease fresh => cases purged
  | seize key lease fresh => cases purged
  | complete key owner outcome window => cases purged
  | release key owner => cases purged
  | read key => cases purged

/-- A call that both take keeps them coupled. -/
theorem take (h : Coupled keyPrefix t.now s s') (portable : t.Portable)
    (kept : t.call.isPurge = false) :
    Coupled keyPrefix t.now (s.take Memory.store t) (s'.take (store keyPrefix) t) := by
  obtain ⟨keys, inner, mirrors⟩ := h.mirror
  have agrees := perform_agrees mirrors portable kept
  obtain ⟨seen, answered⟩ := Memory.perform_next s.inner t
  have notPurge : t.call ≠ .purge := by
    intro purge
    rw [purge] at kept
    cases kept
  have same : s'.entry (store keyPrefix) t = s.entry Memory.store t := by
    rw [Journaled.entry, Journaled.entry, inner, agrees.answer, answered notPurge]
  obtain ⟨keys', state, mirrors'⟩ := agrees.mirror
  refine ⟨⟨keys', ?_, ?_⟩, ?_, ?_⟩
  · rw [← state, ← inner]
    rfl
  · show Mirrors keyPrefix keys' (Memory.sight (Memory.store.perform s.inner t).state t.now) t.now
    rw [seen]
    exact mirrors'
  · rw [Journaled.journal_take, Journaled.journal_take, List.filter_append, h.journal, same]
    simp [Journaled.entry, kept]
  · intro e he
    rw [Journaled.journal_take, List.mem_append, List.mem_singleton] at he
    rcases he with he | rfl
    · exact h.answered e he
    · obtain ⟨a, done⟩ := (Memory.sight s.inner t.now).exists_answer portable.inRange
      exact ⟨a, by rw [same, Journaled.entry, answered notPurge, done]⟩

/-- Calls one after the other keep both coupled. -/
theorem run {calls : List Timed} (h : Coupled keyPrefix now s s') (whole : now.Whole)
    (chronological : Chronological calls) (portable : ∀ t ∈ calls, t.Portable)
    (after : ∀ t ∈ calls, now ≤ t.now) :
    ∃ last, Coupled keyPrefix last (s.run Memory.store calls)
      (s'.run (store keyPrefix) (calls.filter (!·.call.isPurge))) := by
  induction calls generalizing s s' now with
  | nil => exact ⟨now, h⟩
  | cons t rest ih =>
    obtain ⟨first, others⟩ := List.pairwise_cons.1 chronological
    have here := portable t List.mem_cons_self
    have portableRest : ∀ u ∈ rest, u.Portable := fun u hu => portable u (List.mem_cons_of_mem _ hu)
    have now_t := h.later whole here.whole (after t List.mem_cons_self)
    rw [Journaled.run_cons]
    cases kept : t.call.isPurge with
    | true =>
      rw [List.filter_cons_of_neg (by simp [kept])]
      exact ih (now_t.purge kept) here.whole others portableRest first
    | false =>
      rw [List.filter_cons_of_pos (by simp [kept]), Journaled.run_cons]
      exact ih (now_t.take here kept) here.whole others portableRest first

theorem empty (keyPrefix : String) (now : Instant) :
    Coupled keyPrefix now (.of .empty) (.of (serving .empty)) where
  mirror := ⟨.empty, rfl, fun _ => .none⟩
  journal := rfl
  answered e he := by cases he

end Coupled

/-- The two stores give the same answers. From empty stores, the same calls at the same whole
milliseconds are all answered, and alike: whichever keys, tokens, windows and payloads they bring,
and wherever the memory is purged in between. -/
theorem journal_eq_of_portable (keyPrefix : String) (calls : List Timed)
    (chronological : Chronological calls) (portable : ∀ t ∈ calls, t.Portable) :
    let memory := (Journaled.of .empty).run Memory.store calls
    let remote := (Journaled.of (serving .empty)).run (store keyPrefix)
      (calls.filter (!·.call.isPurge))
    remote.journal = memory.journal.filter (!·.call.isPurge) ∧
      ∀ e ∈ remote.journal, ∃ a, e.answer = .done a := by
  intro memory remote
  obtain ⟨last, coupled⟩ : ∃ last, Coupled keyPrefix last memory remote := by
    cases calls with
    | nil => exact ⟨.epoch, .empty keyPrefix .epoch⟩
    | cons t rest =>
      have after : ∀ u ∈ t :: rest, t.now ≤ u.now := by
        intro u hu
        rcases List.mem_cons.1 hu with rfl | hu
        · exact le_refl _
        · exact (List.pairwise_cons.1 chronological).1 u hu
      exact (Coupled.empty keyPrefix t.now).run (portable t List.mem_cons_self).whole
        chronological portable after
  exact ⟨coupled.journal, coupled.answered⟩

/-- A payload of one member. -/
def receipt : Json := .object [("total", .int (-7))]

/-- Five milliseconds after the start of the count. -/
def soon : Instant := { Instant.epoch with nanos := 5000000, nanos_lt := by decide }

/-- A lease whose outcome is cached for no time at all, a purge, and a lease by force. -/
def briefly : List Timed :=
  [⟨.epoch, .claim "k" (.ofMillis 10) (.serial 1)⟩,
    ⟨soon, .complete "k" (.serial 1) ⟨200, receipt⟩ (.ofMillis 0)⟩, ⟨soon, .purge⟩,
    ⟨soon, .seize "k" (.ofMillis 10) (.serial 2)⟩, ⟨soon, .read "k"⟩]

/-- Both stores take `briefly` alike. -/
theorem journal_eq_of_portable_briefly :
    let memory := (Journaled.of .empty).run Memory.store briefly
    let remote := (Journaled.of (serving .empty)).run (store "idem")
      (briefly.filter (!·.call.isPurge))
    Chronological briefly ∧ (∀ t ∈ briefly, t.Portable) ∧
      remote.journal = memory.journal.filter (!·.call.isPurge) ∧
      ∀ e ∈ remote.journal, ∃ a, e.answer = .done a := by
  intro memory remote
  have chronological : Chronological briefly := by
    unfold Chronological briefly
    decide
  have window : ∀ {n : Nat} {now : Instant}, (Span.ofMillis n).Fits now →
      ∀ window ∈ some (Span.ofMillis n), window.Fits now ∧ ∃ n, window = .ofMillis n := by
    intro n now fits window asked
    rw [← Option.some.inj asked]
    exact ⟨fits, n, rfl⟩
  have payload : ∀ outcome ∈ some (⟨200, receipt⟩ : Outcome), outcome.payload.Portable := by
    intro outcome brought
    rw [← Option.some.inj brought]
    exact ⟨.object (List.pairwise_singleton _ _) (.cons (.int rfl) .nil), rfl, by decide⟩
  have portable : ∀ t ∈ briefly, t.Portable := by
    simp only [briefly, List.mem_cons, List.not_mem_nil, or_false, forall_eq_or_imp, forall_eq]
    exact ⟨⟨by decide, window (by decide), nofun⟩, ⟨by decide, window (by decide), payload⟩,
      ⟨by decide, nofun, nofun⟩, ⟨by decide, window (by decide), nofun⟩,
      ⟨by decide, nofun, nofun⟩⟩
  exact ⟨chronological, portable, journal_eq_of_portable "idem" briefly chronological portable⟩

end Remote

end Turnstile
