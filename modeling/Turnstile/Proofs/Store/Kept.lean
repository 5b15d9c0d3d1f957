import Mathlib.Data.List.Nodup
import Turnstile.Proofs.Guard.Opening
import Turnstile.Proofs.Memory.Upkeep
import Turnstile.Proofs.Record.Wire
import Turnstile.Store.Remote

/-!
The shape of records. A record names its own key, and it has a status and a payload exactly if it is
completed. Main statements: every record in memory has this shape, whatever calls were taken and be
they broken off (`Memory.kept_run`), and so has every record that is decoded from a server, whatever
stands there (`Record.Wire.kept_of_decode`). So on both stores a caller is never told that a
completed record has no outcome (`records_kept`).
-/

namespace Turnstile

open Store

/-- A record as a store keeps it under a key. -/
structure Record.Kept (key : String) (r : Record) : Prop where
  named : r.key = key
  pending : r.state = .pending → r.status = none ∧ r.payload = none
  completed : r.state = .completed →
    ∃ status payload, r.status = some status ∧ r.payload = some payload

namespace Record

variable {key : String} {r : Record} {outcome : Outcome}

theorem kept_of_pending? {now : Instant} {owner : Token} {lease : Span}
    (fresh : pending? now key owner lease = some r) : r.Kept key := by
  obtain ⟨ends, -, rfl⟩ := Option.map_eq_some_iff.1 fresh
  exact ⟨rfl, fun _ => ⟨rfl, rfl⟩, fun other => (by cases other)⟩

/-- A record that an outcome is put into has the parts of a completed one, whenever it ends. -/
theorem Kept.withOutcome (kept : r.Kept key) (ends : Instant) :
    Kept key { r.withOutcome outcome with expiresAt := ends } :=
  ⟨kept.named, fun other => (by cases other), fun _ => ⟨outcome.status, outcome.payload, rfl, rfl⟩⟩

/-- A completed record has an outcome. -/
theorem Kept.exists_outcome? (kept : r.Kept key) (completed : r.state = .completed) :
    ∃ outcome, r.outcome? = some outcome := by
  obtain ⟨status, payload, hstatus, -⟩ := kept.completed completed
  exact ⟨_, by rw [outcome?, completed, hstatus]⟩

end Record

/-- What a record stands in the way of is a claim. -/
theorem Store.exists_claim_of_conflict {σ : Type} {st : Store σ} {s : σ} {t : Timed} {r : Record}
    (refused : (st.perform s t).result = .done (.claim (.conflict r))) :
    ∃ key lease fresh, (st.claim s ⟨t.now, fresh⟩ key lease).result = .done (.conflict r) := by
  obtain ⟨now, call⟩ := t
  cases call with
  | claim key lease fresh =>
    obtain ⟨claimed, result, same⟩ := Attempt.map_eq_done_iff.1 refused
    cases same
    exact ⟨key, lease, fresh, result⟩
  | seize key lease fresh =>
    obtain ⟨owner, -, other⟩ := Attempt.map_eq_done_iff.1 refused
    cases other
  | complete key owner outcome window =>
    obtain ⟨finality, -, other⟩ := Attempt.map_eq_done_iff.1 refused
    cases other
  | release key owner =>
    obtain ⟨finality, -, other⟩ := Attempt.map_eq_done_iff.1 refused
    cases other
  | read key =>
    obtain ⟨found, -, other⟩ := Attempt.map_eq_done_iff.1 refused
    cases other
  | purge =>
    obtain ⟨count, -, other⟩ := Attempt.map_eq_done_iff.1 refused
    cases other

/-! ## In memory -/

namespace Memory

variable {calls : List Timed}

/-- Every record that is there after calls has the shape of a record. -/
theorem kept_run (calls : List Timed) :
    Every Record.Kept ((Journaled.of .empty).run store calls).inner := by
  refine every_run .empty fun e _ => ⟨fun a r _ => Record.kept_of_pending?, ?_⟩
  intro key owner outcome window r _ kept
  exact ⟨kept.withOutcome r.expiresAt, kept.withOutcome⟩

/-- Every record that is there after calls belongs to a token that was granted on its key. -/
theorem granted_run (calls : List Timed) :
    let s := (Journaled.of .empty).run store calls
    Every (fun key r => ∃ a ∈ s.journal.filterMap Entry.grant?, a.key = key ∧ a.owner = r.owner)
      s.inner := by
  intro s
  refine every_run .empty fun e taken => ⟨fun a r granted fresh => ?_, ?_⟩
  · obtain ⟨ends, -, rfl⟩ := Option.map_eq_some_iff.1 fresh
    exact ⟨a, List.mem_filterMap.2 ⟨e, taken, granted⟩, rfl, rfl⟩
  · intro key owner outcome window r _ owned
    exact ⟨owned, fun _ => owned⟩

/-- No two records belong to one token, if no two leases were granted to one. -/
theorem pairwise_owner_run
    (distinct : (((Journaled.of .empty).run store calls).journal.filterMap Entry.grant?).Pairwise
      (·.owner ≠ ·.owner)) :
    ((Journaled.of .empty).run store calls).inner.entries.Pairwise
      fun a b => a.2.owner ≠ b.2.owner := by
  generalize reached : (Journaled.of .empty).run store calls = s at distinct ⊢
  have granted := granted_run calls
  rw [reached] at granted
  have keys : s.inner.entries.Pairwise fun a b => a.1 ≠ b.1 := List.pairwise_map.1 s.inner.nodup
  refine keys.imp_of_mem fun {a b} ha hb different same => different ?_
  obtain ⟨grant, hgrant, named, owned⟩ := granted a.1 a.2 ((s.inner.mem_entries_iff _ _).1 ha)
  obtain ⟨grant', hgrant', named', owned'⟩ := granted b.1 b.2 ((s.inner.mem_entries_iff _ _).1 hb)
  -- two grants to one token are one grant, so the keys are one key
  have one : grant = grant' :=
    List.inj_on_of_nodup_map (List.pairwise_map.2 distinct) hgrant hgrant'
      (owned.trans (same.trans owned'.symm))
  rw [← named, ← named', one]

section

variable {s : State}

/-- The store in memory never fails. -/
theorem perform_ne_failed (t : Timed) (fault : Fault) :
    (store.perform s t).result ≠ .failed fault := by
  have granted : ∀ {α : Type} (m : Moment) (key : String) (lease : Span) (answer : Token → α),
      (grant s m key lease answer).result ≠ .failed fault := by
    intro α m key lease answer
    unfold grant
    split <;> simp [step]
  obtain ⟨now, call⟩ := t
  intro failed
  cases call with
  | claim key lease fresh =>
    have failed : (claim s ⟨now, fresh⟩ key lease).result = _ := Attempt.map_eq_failed_iff.1 failed
    unfold claim at failed
    split at failed
    · cases failed
    · exact granted _ _ _ _ failed
  | seize key lease fresh => exact granted _ _ _ _ (Attempt.map_eq_failed_iff.1 failed)
  | complete key owner outcome window =>
    have failed : (complete s now key owner outcome window).result = _ :=
      Attempt.map_eq_failed_iff.1 failed
    revert failed
    unfold complete
    repeat' split
    all_goals simp [step]
  | release key owner =>
    have failed : (release s now key owner).result = _ := Attempt.map_eq_failed_iff.1 failed
    revert failed
    unfold release
    repeat' split
    all_goals simp [step]
  | read key => cases failed
  | purge => cases failed

/-- A record that stands in the way of a call is a record of the map. -/
theorem exists_live?_of_conflict {t : Timed} {r : Record}
    (refused : (store.perform s t).result = .done (.claim (.conflict r))) :
    ∃ key, live? s t.now key = some r := by
  obtain ⟨key, lease, fresh, refused⟩ := exists_claim_of_conflict refused
  have refused : (claim s ⟨t.now, fresh⟩ key lease).result = _ := refused
  unfold claim at refused
  split at refused
  · rename_i seen
    cases refused
    exact ⟨key, seen⟩
  · unfold grant at refused
    split at refused <;> cases refused

end

end Memory

/-! ## On a server -/

/-- What is told of a completed record without an outcome. -/
def uncached : Fault := .internal "Completed idempotency record has no cached outcome"

namespace Record.Wire

variable {key : String} {fields : List (String × String)}

/-- A record that is decoded has the shape of a record under the key that was asked for. -/
theorem kept_of_decode {r : Record} (decoded : decode key fields = .ok (some r)) : r.Kept key := by
  have given : fields ≠ [] := by
    rintro rfl
    cases decoded
  obtain ⟨state, owner, createdAt, expiresAt, -, -, -, -, parts⟩ := exists_of_decode given decoded
  rcases parts with ⟨-, same⟩ | ⟨-, code, payload, -, -, same⟩
  · cases same
    exact ⟨rfl, fun _ => ⟨rfl, rfl⟩, fun other => (by cases other)⟩
  · cases same
    exact ⟨rfl, fun other => (by cases other), fun _ => ⟨code, payload, rfl, rfl⟩⟩

/-! ### What is told of fields that describe no record -/

/-- A fault that begins with another letter is another fault. -/
theorem internal_ne_uncached {text : String} (first : text.toList.head? = some 'I') :
    Fault.internal text ≠ uncached := by
  intro same
  rw [Fault.internal.inj same] at first
  exact absurd first (by decide)

theorem missing_ne_uncached (name : String) : missing name ≠ uncached :=
  internal_ne_uncached (by simp only [String.toList_append, List.head?_append]; rfl)

theorem malformed_ne_uncached (key name : String) : malformed key name ≠ uncached :=
  internal_ne_uncached (by simp only [String.toList_append, List.head?_append]; rfl)

theorem ne_uncached_of_parsed {α : Type} {table : Table String} {name : String}
    {read? : String → Option α} {fault : Fault}
    (failed : parsed key table name read? = .error fault) : fault ≠ uncached := by
  rw [parsed, required] at failed
  cases found : table.find? name with
  | none =>
    rw [found] at failed
    cases failed
    exact missing_ne_uncached name
  | some text =>
    rw [found] at failed
    cases meaning : read? text with
    | none =>
      simp only [Except.bind, meaning] at failed
      cases failed
      exact malformed_ne_uncached key name
    | some a =>
      simp only [Except.bind, meaning] at failed
      cases failed

/-- Fields that cannot be decoded are told of by what is wrong with them. -/
theorem ne_uncached_of_decode {fault : Fault} (failed : decode key fields = .error fault) :
    fault ≠ uncached := by
  unfold decode at failed
  split at failed
  · cases failed
  · obtain failed | ⟨state, -, failed⟩ := bind_eq_error_iff.1 failed
    · exact ne_uncached_of_parsed failed
    obtain failed | ⟨owner, -, failed⟩ := bind_eq_error_iff.1 failed
    · exact ne_uncached_of_parsed failed
    obtain failed | ⟨createdAt, -, failed⟩ := bind_eq_error_iff.1 failed
    · exact ne_uncached_of_parsed failed
    obtain failed | ⟨expiresAt, -, failed⟩ := bind_eq_error_iff.1 failed
    · exact ne_uncached_of_parsed failed
    cases state with
    | pending => cases failed
    | completed =>
      obtain failed | ⟨code, -, failed⟩ := bind_eq_error_iff.1 failed
      · exact ne_uncached_of_parsed failed
      dsimp only at failed
      split at failed
      · rename_i text _
        obtain failed | ⟨payload, -, failed⟩ := bind_eq_error_iff.1 failed
        · unfold readPayload at failed
          split at failed
          · cases failed
          · cases failed
            simp [uncached]
        · cases failed
      · cases failed

end Record.Wire

namespace Remote

variable {serverPrefix key : String} {s : State} {fault : Fault}

/-- What the server reports itself is a failure of the store. -/
theorem isStoreFailure_of_checked {reply : Reply} (failed : checked reply = .error fault) :
    fault.isStoreFailure = true := by
  unfold checked at failed
  split at failed <;> cases failed
  rfl

theorem isStoreFailure_of_send {run : Keyspace → Reply × Keyspace}
    (failed : (send s run).1 = .error fault) : fault.isStoreFailure = true := by
  unfold send at failed
  split at failed
  · exact isStoreFailure_of_checked failed
  · cases failed
    rfl

theorem isStoreFailure_of_invoke {script : Script Reply}
    (failed : (invoke s script).1 = .error fault) : fault.isStoreFailure = true := by
  unfold invoke at failed
  split at failed
  · dsimp only at failed
    split at failed
    · split at failed
      · rename_i unloaded
        cases failed
        exact isStoreFailure_of_checked unloaded
      · exact isStoreFailure_of_checked failed
    · exact isStoreFailure_of_checked failed
  · cases failed
    rfl

/-- So is a reply of another type than it should have. -/
theorem isStoreFailure_of_interpret {α : Type} {read? : Reply → Option α}
    {answer : Except Fault Reply}
    (unanswered : ∀ fault, answer = .error fault → fault.isStoreFailure = true)
    (failed : interpret read? answer = .error fault) : fault.isStoreFailure = true := by
  obtain failed | ⟨reply, -, failed⟩ := bind_eq_error_iff.1 failed
  · exact unanswered fault failed
  · cases meaning : read? reply with
    | none =>
      rw [meaning] at failed
      cases failed
      rfl
    | some a =>
      rw [meaning] at failed
      cases failed

theorem attempt_eq_done_iff {α : Type} {result : Except Fault α} {a : α} :
    attempt result = .done a ↔ result = .ok a := by
  cases result <;> simp [attempt]

theorem attempt_eq_failed_iff {α : Type} {result : Except Fault α} :
    attempt result = .failed fault ↔ result = .error fault := by
  cases result <;> simp [attempt]

/-- A record that is read has the shape of a record. -/
theorem kept_of_read {now : Instant} {r : Record}
    (seen : (read serverPrefix s now key).result = .done (some r)) : r.Kept key := by
  obtain ⟨pairs, -, decoded⟩ := bind_eq_ok_iff.1 (attempt_eq_done_iff.1 seen)
  exact Record.Wire.kept_of_decode decoded

/-- A record that stands in the way of a claim has the shape of a record. -/
theorem kept_of_claim {m : Moment} {lease : Span} {r : Record}
    (refused : (claim serverPrefix s m key lease).result = .done (.conflict r)) : r.Kept key := by
  unfold claim at refused
  split at refused
  · cases refused
  · obtain ⟨texts, -, claimed⟩ := bind_eq_ok_iff.1 (attempt_eq_done_iff.1 refused)
    unfold claimOf at claimed
    split at claimed
    · cases claimed
    · split at claimed <;> cases claimed
      rename_i decoded
      exact Record.Wire.kept_of_decode decoded

theorem ne_uncached_of_claimOf {owner : Token} {texts : List String}
    (failed : claimOf key owner texts = .error fault) : fault ≠ uncached := by
  unfold claimOf at failed
  split at failed
  · cases failed
  · split at failed
    · cases failed
    · cases failed
      simp [uncached]
    · rename_i undecoded
      cases failed
      exact Record.Wire.ne_uncached_of_decode undecoded

/-- A call fails by the server, or by what stands there and how it is wrong. -/
theorem perform_ne_uncached (t : Timed) :
    ((store serverPrefix).perform s t).result ≠ .failed uncached := by
  -- a fault of the server itself is another one
  have other : uncached.isStoreFailure ≠ true := by simp [uncached, Fault.isStoreFailure]
  have invoked : ∀ {script : Script Reply} (fault : Fault),
      (invoke s script).1 = .error fault → fault.isStoreFailure = true :=
    fun fault => isStoreFailure_of_invoke
  obtain ⟨now, call⟩ := t
  intro failed
  cases call with
  | claim key lease fresh =>
    have failed : (claim serverPrefix s ⟨now, fresh⟩ key lease).result = _ :=
      Attempt.map_eq_failed_iff.1 failed
    unfold claim at failed
    split at failed
    · cases failed
    · obtain failed | ⟨texts, -, failed⟩ :=
        bind_eq_error_iff.1 (attempt_eq_failed_iff.1 failed)
      · exact other (isStoreFailure_of_interpret invoked failed)
      · exact ne_uncached_of_claimOf failed rfl
  | seize key lease fresh =>
    have failed : (seize serverPrefix s ⟨now, fresh⟩ key lease).result = _ :=
      Attempt.map_eq_failed_iff.1 failed
    unfold seize at failed
    split at failed
    · cases failed
    · have failed := map_eq_error_iff.1 (attempt_eq_failed_iff.1 failed)
      exact other (isStoreFailure_of_interpret invoked failed)
  | complete key owner outcome window =>
    have failed : (complete serverPrefix s now key owner outcome window).result = _ :=
      Attempt.map_eq_failed_iff.1 failed
    unfold complete at failed
    split at failed
    · cases failed
    · have failed := map_eq_error_iff.1 (attempt_eq_failed_iff.1 failed)
      exact other (isStoreFailure_of_interpret invoked failed)
  | release key owner =>
    have failed := map_eq_error_iff.1
      (attempt_eq_failed_iff.1 (Attempt.map_eq_failed_iff.1 failed))
    exact other (isStoreFailure_of_interpret invoked failed)
  | read key =>
    have failed : attempt ((interpret Reply.pairs? (send s fun keys =>
        (Keyspace.flatten (keys.hgetall now.millis (hashKey serverPrefix key)), keys)).1).bind
          (Record.Wire.decode key)) = _ := Attempt.map_eq_failed_iff.1 failed
    obtain failed | ⟨pairs, -, failed⟩ := bind_eq_error_iff.1 (attempt_eq_failed_iff.1 failed)
    · exact other (isStoreFailure_of_interpret (fun fault => isStoreFailure_of_send) failed)
    · exact Record.Wire.ne_uncached_of_decode failed rfl
  | purge => cases failed

end Remote

/-! ## What callers are told -/

/-- No caller is told that a completed record has no outcome, if only records of their shape stand
in the way of claims and no call is told so by the store. -/
theorem Guard.value_openFor_ne_uncached {σ : Type} (g : Guard σ) {s : σ} (c : Caller) (m : Moment)
    (kept : ∀ t r, (g.store.perform s t).result = .done (.claim (.conflict r)) →
      ∃ key, r.Kept key)
    (told : ∀ t, (g.store.perform s t).result ≠ .failed uncached) :
    (g.openFor c s m).value ≠ .ended (.error (.store uncached)) := by
  rw [g.openFor_eq]
  cases c.findKey with
  | error reason => simp
  | ok rawKey =>
    intro ended
    have refuses := refuses_openingOf ended
    generalize answered : (g.store.perform s (g.claimAt c rawKey m)).result = answer at refuses
    cases refuses with
    | failed => exact told _ answered
    | uncached completed rule missing =>
      obtain ⟨key, kept⟩ := kept _ _ answered
      obtain ⟨outcome, cached⟩ := kept.exists_outcome? (of_decide_eq_true completed)
      rw [missing] at cached
      cases cached

/-- **Records keep their shape.** After any calls of the store in memory, be they broken off or not
and in whatever order their times are, every record stands under its own key, a pending one has
neither status nor payload, a completed one has both, and no two records belong to one token unless
two leases were granted to it. The server may hold whatever it likes, and reply whatever it likes:
every record that is read from it, or stands in the way of a claim, has this shape under the key
that was asked for. So on neither store a caller is ever told that a completed record has no
outcome. -/
theorem records_kept :
    (∀ calls : List Timed,
      let s := (Journaled.of .empty).run Memory.store calls
      (∀ key r, (key, r) ∈ s.inner.entries → r.Kept key) ∧
      ((s.journal.filterMap Entry.grant?).Pairwise (·.owner ≠ ·.owner) →
        s.inner.entries.Pairwise fun a b => a.2.owner ≠ b.2.owner) ∧
      ∀ keyPrefix c m,
        ((⟨Memory.store, keyPrefix⟩ : Guard Memory.State).openFor c s.inner m).value ≠
          .ended (.error (.store uncached))) ∧
    ∀ (serverPrefix : String) (s : Remote.State),
      (∀ now key r, (Remote.read serverPrefix s now key).result = .done (some r) → r.Kept key) ∧
      (∀ m key lease r,
        (Remote.claim serverPrefix s m key lease).result = .done (.conflict r) → r.Kept key) ∧
      ∀ keyPrefix c m,
        ((⟨Remote.store serverPrefix, keyPrefix⟩ : Guard Remote.State).openFor c s m).value ≠
          .ended (.error (.store uncached)) := by
  refine ⟨?memory, ?server⟩
  case memory =>
    intro calls s
    have kept : Memory.Every Record.Kept s.inner := Memory.kept_run calls
    refine ⟨?_, Memory.pairwise_owner_run, ?_⟩
    · intro key r mem
      exact kept key r ((s.inner.mem_entries_iff key r).1 mem)
    · intro keyPrefix c m
      refine Guard.value_openFor_ne_uncached _ c m ?_ fun t => Memory.perform_ne_failed t uncached
      intro t r refused
      obtain ⟨key, seen⟩ := Memory.exists_live?_of_conflict refused
      exact ⟨key, kept.of_live? seen⟩
  case server =>
    intro serverPrefix s
    refine ⟨fun _ _ _ => Remote.kept_of_read, fun _ _ _ _ => Remote.kept_of_claim, ?_⟩
    intro keyPrefix c m
    refine Guard.value_openFor_ne_uncached _ c m ?_ Remote.perform_ne_uncached
    intro t r refused
    obtain ⟨key, lease, fresh, refused⟩ := exists_claim_of_conflict refused
    exact ⟨key, Remote.kept_of_claim refused⟩

/-! ### A completion that breaks off -/

/-- Two keys are claimed; the completion of the first one breaks off, for its window has no end. -/
def halfCompleted : List Timed :=
  [⟨.epoch, .claim "k" (.ofSeconds 60) (.serial 1)⟩,
   ⟨.epoch, .claim "l" (.ofSeconds 60) (.serial 2)⟩,
   ⟨.epoch, .complete "k" (.serial 1) ⟨200, .null⟩ (.ofMillis 9000000000000000)⟩,
   ⟨.epoch, .purge⟩]

/-- A completed hash without a payload, written by somebody else. -/
def unpaid : Remote.State :=
  ⟨Keyspace.empty.hset 0 "guard:k"
    [("colour", "red"), ("expires_at", "60000"), ("created_at", "0"), ("status", "201"),
     ("owner", (Token.serial 1).text), ("state", "COMPLETED")], [], true⟩

/-- The record whose completion broke off has both its parts, and its owner is not the other's. The
foreign hash is read as a record that has both its parts as well. -/
theorem records_kept_half_completed :
    let s := (Journaled.of .empty).run Memory.store halfCompleted
    (∃ r, s.inner.find? "k" = some r ∧ r.state = .completed ∧ r.Kept "k") ∧
      s.inner.entries.Pairwise (fun a b => a.2.owner ≠ b.2.owner) ∧
      ∃ r, (Remote.read "guard" unpaid .epoch "k").result = .done (some r) ∧
        r.state = .completed ∧ r.Kept "k" := by
  intro s
  obtain ⟨memory, server⟩ := records_kept
  obtain ⟨kept, apart, -⟩ := memory halfCompleted
  refine ⟨?_, apart (by decide +kernel), ?_⟩
  · have there : (s.inner.find? "k").any (·.isCompleted) = true := by decide +kernel
    cases found : s.inner.find? "k" with
    | none =>
      rw [found] at there
      cases there
    | some r =>
      rw [found] at there
      exact ⟨r, rfl, of_decide_eq_true there, kept "k" r ((s.inner.mem_entries_iff _ _).2 found)⟩
  · obtain ⟨r, seen, completed⟩ : ∃ r,
        (Remote.read "guard" unpaid .epoch "k").result = .done (some r) ∧ r.state = .completed :=
      ⟨_, rfl, rfl⟩
    exact ⟨r, seen, completed, (server "guard" unpaid).1 _ _ _ seen⟩

end Turnstile
