import Turnstile.Proofs.Memory.Sight
import Turnstile.Proofs.Remote.Upkeep
import Turnstile.Proofs.Store.Settled

/-!
Completed records of both stores. On a server the hash of a completed record is let be by every call
that leaves the record alone, and its time to live ends with the record, or a millisecond before
because the server counts whole milliseconds. Main statement: on both stores a completed record is
read unchanged until its end and not at all from then on, whatever calls that leave it alone are
taken before, and a release by its own token removes it (`settled_until_end`).
-/

namespace Turnstile

open Store

namespace Remote

variable {keyPrefix key : String} {keys : Keyspace} {now : Instant} {r : Record} {h : Hash}

/-! ## What is read -/

/-- The record of a key is read from its hash alone. -/
theorem read_eq (keyPrefix key : String) (keys : Keyspace) (now : Instant) :
    ((store keyPrefix).read (serving keys) now key).result =
      attempt (Record.Wire.decode key
        ((keys.live? now.millis (hashKey keyPrefix key)).elim [] (·.fields.entries))) := by
  simp only [store, read_serving]
  rfl

theorem read_of_absent (absent : keys.live? now.millis (hashKey keyPrefix key) = none) :
    ((store keyPrefix).read (serving keys) now key).result = .done none := by
  rw [read_eq, absent]
  rfl

/-- A record is what is read from a hash. -/
def Shows (key : String) (h : Hash) (r : Record) : Prop :=
  Record.Wire.decode key h.fields.entries = .ok (some r)

theorem read_of_shows (found : keys.live? now.millis (hashKey keyPrefix key) = some h)
    (shown : Shows key h r) :
    ((store keyPrefix).read (serving keys) now key).result = .done (some r) := by
  rw [read_eq, found, Option.elim_some, shown]
  rfl

/-- A record that is read is read from a hash that is there. -/
theorem exists_shows_of_read
    (seen : ((store keyPrefix).read (serving keys) now key).result = .done (some r)) :
    ∃ h, keys.live? now.millis (hashKey keyPrefix key) = some h ∧ Shows key h r := by
  cases found : keys.live? now.millis (hashKey keyPrefix key) with
  | none =>
    rw [read_of_absent found] at seen
    cases seen
  | some h =>
    refine ⟨h, rfl, ?_⟩
    rw [read_eq, found, Option.elim_some] at seen
    cases decoded : Record.Wire.decode key h.fields.entries with
    | error fault =>
      rw [decoded] at seen
      cases seen
    | ok found? =>
      rw [decoded] at seen
      cases seen
      exact decoded

namespace Shows

/-- The state, the owner and the end of a record stand in the fields of its hash. -/
theorem fields (shown : Shows key h r) :
    h.fields.find? "state" = some r.state.text ∧
      (∃ text, h.fields.find? "owner" = some text ∧ Token.read? text = some r.owner) ∧
      ∃ text, h.fields.find? "expires_at" = some text ∧
        Record.Wire.readMillis? text = some r.expiresAt := by
  obtain ⟨state, owner, ends⟩ := Record.Wire.fields_of_decode shown
  simp only [Record.Wire.parsed_eq_ok_iff, Table.find?_ofList_entries] at state owner ends
  obtain ⟨text, found, read⟩ := state
  exact ⟨Record.Wire.eq_text_of_read? read ▸ found, owner, ends⟩

/-- The hash of a completed record is let be by the calls that leave the record alone. -/
theorem spares {call : Call} (shown : Shows key h r) (completed : r.isCompleted = true)
    (kept : call.Keeps key r) : Spares key h call := by
  obtain ⟨state, ⟨text, owned, read⟩, -⟩ := shown.fields
  cases call with
  | seize k lease fresh => exact kept
  | complete k owner outcome window =>
    intro _ _ pending
    have settled : r.state = .completed := of_decide_eq_true completed
    rw [state, settled] at pending
    exact absurd (Option.some.inj pending) (by decide)
  | release k owner =>
    intro same own
    rw [owned] at own
    rw [Option.some.inj own, Token.read?_text] at read
    exact kept same (Option.some.inj read)
  | claim k lease fresh => trivial
  | read k => trivial
  | purge => trivial

end Shows

/-! ## Hashes that calls wrote -/

/-- A hash belongs to a token, and its time to live was set for a window that was asked for, with
the end of that window in its fields. -/
structure Timely (asked : Span → Prop) (h : Hash) : Prop where
  owner : ∃ token : Token, h.fields.find? "owner" = some token.text
  ends : ∃ (now : Instant) (window : Span) (ends : Instant), asked window ∧
    now.deadline? window = some ends ∧
    h.fields.find? "expires_at" = some (Text.writeInt ends.millis) ∧
    h.expiry = some ⟨now.millis, window.cappedMillis⟩

variable {asked : Span → Prop}

/-- Hashes that calls write are timely. -/
theorem written_timely {t : Timed} (every : ∀ window ∈ t.call.window?, asked window) :
    Written (Timely asked) t where
  lease key fresh window r ask pending := by
    obtain ⟨ends, inRange, rfl⟩ := Option.map_eq_some_iff.1 pending
    have described := Record.Wire.describes_insert_all .empty
      ⟨key, .pending, fresh, none, none, t.now, ends⟩
    exact ⟨⟨fresh, described.owner⟩,
      ⟨t.now, window, ends, every window ask, inRange, described.expiresAt, rfl⟩⟩
  outcome outcome window ends h ask inRange timely := by
    have nodup : ((Record.Wire.outcomeFields outcome ends).map Prod.fst).Nodup := by
      simp [Record.Wire.outcomeFields]
    obtain ⟨token, owned⟩ := timely.owner
    refine ⟨⟨token, ?_⟩, ⟨t.now, window, ends, every window ask, inRange, ?_, rfl⟩⟩
    · rw [Table.find?_insert_all h.fields nodup]
      exact owned
    · rw [Table.find?_insert_all h.fields nodup]
      rfl

/-- A window that is not cut to a century can be set as a time to live, and is set as it is. -/
theorem cappedMillis_of_le {window : Span} (short : window.nanos ≤ Span.longest.nanos) :
    window.cappedMillis = window.millis ∧ window.millis < Keyspace.expiryLimit := by
  have limit : window.millis ≤ Span.longest.millis := Nat.div_le_div_right short
  rw [Span.longest, Span.millis_ofMillis] at limit
  have below : window.millis < Keyspace.expiryLimit := Nat.lt_of_le_of_lt limit (by decide)
  exact ⟨Nat.min_eq_left (Nat.le_trans limit (by decide)), below⟩

/-- The owner field of a timely hash is the text of the owner that is read. -/
theorem Timely.owned (timely : Timely asked h) (shown : Shows key h r) :
    h.fields.find? "owner" = some r.owner.text := by
  obtain ⟨-, ⟨text, owned, read⟩, -⟩ := shown.fields
  obtain ⟨token, canonical⟩ := timely.owner
  rw [canonical] at owned
  rw [← Option.some.inj owned, Token.read?_text] at read
  rw [canonical, Option.some.inj read]

/-- After calls whose windows are not cut to a century, every hash is timely. -/
theorem timely_run (keyPrefix : String) {past : List Timed}
    (short : ∀ t ∈ past, ∀ window ∈ t.call.window?, window.nanos ≤ Span.longest.nanos) :
    (keysAfterAll keyPrefix .empty past).Every
      (Timely fun window => ∃ t ∈ past, window ∈ t.call.window?) := by
  refine every_keysAfterAll .empty ?_ fun t ht =>
    written_timely fun window asks => ⟨t, ht, asks⟩
  intro t ht window asks
  obtain ⟨whole, below⟩ := cappedMillis_of_le (short t ht window asks)
  rwa [whole]

/-- The time to live of a timely hash ends at the end of its record, or less than a millisecond
before, and exactly there if the windows that were asked for are whole milliseconds. -/
theorem Timely.exists_end (timely : Timely asked h) (shown : Shows key h r)
    (short : ∀ window, asked window → window.nanos ≤ Span.longest.nanos) :
    ∃ d : Int, (∀ later, Keyspace.isThere later h = true ↔ later < d) ∧
      d ≤ r.expiresAt.millis ∧ r.expiresAt.millis ≤ d + 1 ∧
      ((∀ window, asked window → window.nanos % 1000000 = 0) → d = r.expiresAt.millis) := by
  obtain ⟨now, window, ends, ask, inRange, field, ttl⟩ := timely.ends
  obtain ⟨-, -, text, found, read⟩ := shown.fields
  have uncut : window.capped = window := if_neg (Nat.not_lt.2 (short window ask))
  rw [Instant.deadline?, uncut] at inRange
  have same : r.expiresAt.millis = ends.millis := by
    rw [field] at found
    have bounds := ends.millis_bounds
    rw [← Option.some.inj found, Record.Wire.readMillis?,
      Text.readSigned?_writeInt bounds.1 bounds.2,
      Option.bind_some] at read
    exact Instant.millis_of_ofMillis? read
  obtain ⟨low, high, exactly⟩ := Instant.millis_add? inRange
  rw [(cappedMillis_of_le (short window ask)).1] at ttl
  refine ⟨now.millis + window.millis, ?_, by omega, by omega, ?_⟩
  · intro later
    simp [Keyspace.isThere, ttl, Keyspace.Expiry.isOver]
  · intro whole
    have := exactly (whole window ask)
    omega

/-- A completed record is read from its hash until the time to live of the hash is over. -/
theorem read_run_settled {s : Journaled State} (serves : s.inner = serving keys)
    (found : keys.live? now.millis (hashKey keyPrefix key) = some h) (shown : Shows key h r)
    (completed : r.isCompleted = true) {d : Int}
    (lasts : ∀ later, Keyspace.isThere later h = true ↔ later < d) {calls : List Timed}
    {later : Instant} (chronological : calls.Pairwise (·.now.millis ≤ ·.now.millis))
    (between : ∀ t ∈ calls,
      now.millis ≤ t.now.millis ∧ t.now.millis ≤ later.millis ∧ t.now.millis < d)
    (le : now.millis ≤ later.millis) (kept : ∀ t ∈ calls, t.call.Keeps key r) :
    ((store keyPrefix).read (s.run (store keyPrefix) calls).inner later key).result =
      .done (if later.millis < d then some r else none) := by
  have stays := live?_keysAfterAll found chronological (fun t ht => (between t ht).1)
    (fun t ht => (between t ht).2.1) le (fun t ht => (lasts _).2 (between t ht).2.2)
    (fun t ht => shown.spares completed (kept t ht))
  rw [inner_run keyPrefix serves calls]
  by_cases before : later.millis < d
  · rw [Option.filter_some, if_pos ((lasts _).2 before)] at stays
    rw [if_pos before, read_of_shows stays shown]
  · rw [Option.filter_some, if_neg fun there => before ((lasts _).1 there)] at stays
    rw [if_neg before, read_of_absent stays]

/-- A release by the token of a hash removes it. -/
theorem release_own {owner : Token}
    (found : keys.live? now.millis (hashKey keyPrefix key) = some h)
    (owned : h.fields.find? "owner" = some owner.text) :
    let step := (store keyPrefix).release (serving keys) now key owner
    step.result = .done .applied ∧
      ∀ later, ((store keyPrefix).read step.state later key).result = .done none := by
  have executed := Script.execute_release keys now.millis (hashKey keyPrefix key) owner.text
  rw [Keyspace.hget, found, Option.bind_some, if_pos owned] at executed
  simp only [store, release_serving executed rfl]
  refine ⟨rfl, fun later => read_of_absent ?_⟩
  rw [Keyspace.live?_del, if_pos rfl]

end Remote

namespace Memory

/-- A release by the token of a record that has not ended removes it. -/
theorem release_own {s : State} {now : Instant} {key : String} {r : Record}
    (seen : live? s now key = some r) :
    let step := store.release s now key r.owner
    step.result = .done .applied ∧
      ∀ later, (store.read step.state later key).result = .done none := by
  obtain ⟨found, ongoing⟩ := Option.filter_eq_some_iff.1 seen
  have own : r.isOwnedBy r.owner = true := by simp [Record.isOwnedBy]
  have ongoing' : r.isExpiredAt now = false := by simpa using ongoing
  simp only [store, release, found, own, ongoing', if_true, step, Bool.false_eq_true, if_false]
  refine ⟨trivial, fun later => ?_⟩
  rw [live?, Table.find?_erase_self]
  rfl

theorem read_eq_some_iff {s : State} {now : Instant} {key : String} {r : Record} :
    (store.read s now key).result = .done (some r) ↔ sight s now key = some r := by
  show Attempt.done (sight s now key) = .done (some r) ↔ _
  rw [Attempt.done.injEq]

end Memory

/-! ## Both stores -/

/-- A completed record of either store is read unchanged until its end and not at all from then on,
whatever calls are taken before the end: claims, completions, reads and purges of any keys by any
tokens, releases but for those of its key by its own token, and seizures of other keys. A release by
its own token is applied and removes it. In memory its end is its expiry. On a server that has taken
any calls, with windows that are not cut to a century, its end is its expiry if the windows are
whole milliseconds, and its expiry or the millisecond before if they are not. -/
theorem settled_until_end :
    (∀ (s : Journaled Memory.State) (now : Instant) (key : String) (r : Record),
      (Memory.store.read s.inner now key).result = .done (some r) → r.isCompleted = true →
      (∀ (calls : List Timed) (later : Instant), Chronological calls →
        (∀ t ∈ calls, now ≤ t.now ∧ t.now ≤ later ∧ t.now < r.expiresAt) → now ≤ later →
        (∀ t ∈ calls, t.call.Keeps key r) →
        (Memory.store.read (s.run Memory.store calls).inner later key).result =
          .done (if later < r.expiresAt then some r else none)) ∧
      let step := Memory.store.release s.inner now key r.owner
      step.result = .done .applied ∧
        ∀ later, (Memory.store.read step.state later key).result = .done none) ∧
    ∀ (keyPrefix : String) (past : List Timed),
      (∀ t ∈ past, ∀ window ∈ t.call.window?, window.nanos ≤ Span.longest.nanos) →
      let store := Remote.store keyPrefix
      let s := (Journaled.of (Remote.serving .empty)).run store past
      ∀ (now : Instant) (key : String) (r : Record),
        (store.read s.inner now key).result = .done (some r) → r.isCompleted = true →
        (∃ d : Int, d ≤ r.expiresAt.millis ∧ r.expiresAt.millis ≤ d + 1 ∧
          ((∀ t ∈ past, ∀ window ∈ t.call.window?, window.nanos % 1000000 = 0) →
            d = r.expiresAt.millis) ∧
          ∀ (calls : List Timed) (later : Instant),
            calls.Pairwise (·.now.millis ≤ ·.now.millis) →
            (∀ t ∈ calls,
              now.millis ≤ t.now.millis ∧ t.now.millis ≤ later.millis ∧ t.now.millis < d) →
            now.millis ≤ later.millis → (∀ t ∈ calls, t.call.Keeps key r) →
            (store.read (s.run store calls).inner later key).result =
              .done (if later.millis < d then some r else none)) ∧
        let step := store.release s.inner now key r.owner
        step.result = .done .applied ∧
          ∀ later, (store.read step.state later key).result = .done none := by
  constructor
  case left =>
    intro s now key r read completed
    have seen := Memory.read_eq_some_iff.1 read
    refine ⟨?_, Memory.release_own seen⟩
    intro calls later chronological between le kept
    have stays := Memory.view.sight_run_settled s seen completed chronological
      (fun t ht => (between t ht).1) (fun t ht => (between t ht).2.1) le
      (fun t ht => (between t ht).2.2) kept
    show Attempt.done (Memory.view.sight (s.run Memory.store calls).inner later key) = _
    rw [stays, Option.filter_some]
    by_cases before : later < r.expiresAt
    · have ongoing : r.isExpiredAt later = false := Instant.le_eq_false_iff.2 before
      simp [before, ongoing]
    · have ended : r.isExpiredAt later = true := Instant.le_eq_true_iff.2 (not_lt.1 before)
      simp [before, ended]
  case right =>
    intro keyPrefix past short store s now key r read completed
    have serves : s.inner = Remote.serving (Remote.keysAfterAll keyPrefix .empty past) :=
      Remote.inner_run keyPrefix rfl past
    rw [serves] at read ⊢
    obtain ⟨h, found, shown⟩ := Remote.exists_shows_of_read read
    have timely := (Remote.timely_run keyPrefix short).of_live? found
    obtain ⟨d, lasts, low, high, exactly⟩ := timely.exists_end shown
      fun window ⟨t, ht, asks⟩ => short t ht window asks
    refine ⟨⟨d, low, high, ?_, ?_⟩, ?_⟩
    · exact fun whole => exactly fun window ⟨t, ht, asks⟩ => whole t ht window asks
    · intro calls later chronological between le kept
      exact Remote.read_run_settled serves found shown completed lasts chronological between le kept
    · exact Remote.release_own found (timely.owned shown)

/-! ### A record that is cached for a minute -/

/-- Whether the answer to a reading is a completed record of a token with a later end. -/
def readsUntilAfter (owner : Token) (now : Instant) (answer : Attempt (Option Record)) : Bool :=
  match answer with
  | .done (some r) =>
    r.isCompleted && r.isOwnedBy owner && !r.isExpiredAt now &&
      decide (now.millis < r.expiresAt.millis)
  | _ => false

theorem exists_of_readsUntilAfter {owner : Token} {now : Instant}
    {answer : Attempt (Option Record)} (h : readsUntilAfter owner now answer = true) :
    ∃ r, answer = .done (some r) ∧ r.isCompleted = true ∧ r.owner = owner ∧ now < r.expiresAt ∧
      now.millis < r.expiresAt.millis := by
  unfold readsUntilAfter at h
  split at h
  · simp only [Bool.and_eq_true, Bool.not_eq_true', decide_eq_true_iff] at h
    obtain ⟨⟨⟨completed, owned⟩, ongoing⟩, before⟩ := h
    exact ⟨_, rfl, completed, of_decide_eq_true owned, Instant.le_eq_false_iff.1 ongoing, before⟩
  · cases h

/-- A lease of a minute and its outcome, cached for a minute. -/
def minuteCached : List Timed :=
  [⟨.epoch, .claim "k" (.ofSeconds 60) (.serial 1)⟩,
    ⟨.epoch, .complete "k" (.serial 1) ⟨200, .null⟩ (.ofSeconds 60)⟩]

/-- Calls that try to change what `minuteCached` leaves. -/
def intruders : List Timed :=
  [⟨.epoch, .claim "k" (.ofSeconds 60) (.serial 2)⟩, ⟨.epoch, .release "k" (.serial 2)⟩,
    ⟨.epoch, .complete "k" (.serial 1) ⟨500, .null⟩ (.ofSeconds 9)⟩, ⟨.epoch, .purge⟩]

theorem keeps_of_mem_intruders {r : Record} (owned : r.owner = .serial 1) {t : Timed}
    (mem : t ∈ intruders) : t.now = .epoch ∧ t.call.Keeps "k" r := by
  have other : Token.serial 2 ≠ r.owner := by
    rw [owned]
    decide
  simp only [intruders, List.mem_cons, List.not_mem_nil, or_false] at mem
  rcases mem with rfl | rfl | rfl | rfl
  · exact ⟨rfl, trivial⟩
  · exact ⟨rfl, fun _ => other⟩
  · exact ⟨rfl, trivial⟩
  · exact ⟨rfl, trivial⟩

/-- What `minuteCached` leaves withstands `intruders` in both stores. -/
theorem settled_until_end_intruders :
    let memory := (Journaled.of .empty).run Memory.store minuteCached
    let server := (Journaled.of (Remote.serving .empty)).run (Remote.store "guard") minuteCached
    (∃ r, (Memory.store.read memory.inner .epoch "k").result = .done (some r) ∧
      r.isCompleted = true ∧
      (Memory.store.read (memory.run Memory.store intruders).inner .epoch "k").result =
        .done (some r)) ∧
    ∃ r, ((Remote.store "guard").read server.inner .epoch "k").result = .done (some r) ∧
      r.isCompleted = true ∧
      ((Remote.store "guard").read (server.run (Remote.store "guard") intruders).inner .epoch
        "k").result = .done (some r) := by
  intro memory server
  have chronological : Chronological intruders := by
    unfold Chronological intruders
    decide
  have chronological' : intruders.Pairwise (·.now.millis ≤ ·.now.millis) := by
    unfold intruders
    decide
  obtain ⟨onMemory, onServer⟩ := settled_until_end
  constructor
  case left =>
    have reads : readsUntilAfter (.serial 1) .epoch
        (Memory.store.read memory.inner .epoch "k").result = true := by
      decide +kernel
    obtain ⟨r, read, completed, owned, alive, -⟩ := exists_of_readsUntilAfter reads
    have stays := (onMemory memory .epoch "k" r read completed).1 intruders .epoch chronological
      (fun t ht => by
        obtain ⟨now, -⟩ := keeps_of_mem_intruders owned ht
        rw [now]
        exact ⟨le_refl _, le_refl _, alive⟩)
      (le_refl _) (fun t ht => (keeps_of_mem_intruders owned ht).2)
    rw [if_pos alive] at stays
    exact ⟨r, read, completed, stays⟩
  case right =>
    have reads : readsUntilAfter (.serial 1) .epoch
        ((Remote.store "guard").read server.inner .epoch "k").result = true := by
      decide +kernel
    obtain ⟨r, read, completed, owned, -, alive⟩ := exists_of_readsUntilAfter reads
    obtain ⟨⟨d, -, -, exactly, settled⟩, -⟩ :=
      onServer "guard" minuteCached (by decide) .epoch "k" r read completed
    rw [← exactly (by decide)] at alive
    have stays := settled intruders .epoch chronological'
      (fun t ht => by
        obtain ⟨now, -⟩ := keeps_of_mem_intruders owned ht
        rw [now]
        exact ⟨le_refl _, le_refl _, alive⟩)
      (le_refl _) (fun t ht => (keeps_of_mem_intruders owned ht).2)
    rw [if_pos alive] at stays
    exact ⟨r, read, completed, stays⟩

/-- Nine tenths of a millisecond after the start of the count. -/
def early : Instant := { Instant.epoch with nanos := 900000, nanos_lt := by decide }

/-- A millisecond after the start of the count. -/
def onTheDot : Instant := { Instant.epoch with nanos := 1000000, nanos_lt := by decide }

/-- An outcome that is cached from nine tenths of a millisecond to twenty-eight tenths. -/
def brieflyCached : List Timed :=
  [⟨early, .claim "k" (.ofSeconds 60) (.serial 1)⟩,
    ⟨early, .complete "k" (.serial 1) ⟨200, .null⟩ ⟨1900000⟩⟩]

/-- A release by its own token removes a completed record before its end, in both stores; and a
server that counts whole milliseconds drops one a millisecond before its end on its own. -/
theorem unsettled_released :
    let memory := (Journaled.of .empty).run Memory.store minuteCached
    let server := (Journaled.of (Remote.serving .empty)).run (Remote.store "guard")
    let released : List Timed := [⟨.epoch, .release "k" (.serial 1)⟩]
    ((∃ r, (Memory.store.read memory.inner .epoch "k").result = .done (some r) ∧
      r.isCompleted = true ∧ Instant.epoch < r.expiresAt) ∧
      (Memory.store.read (memory.run Memory.store released).inner .epoch "k").result =
        .done none) ∧
    ((∃ r, ((Remote.store "guard").read (server minuteCached).inner .epoch "k").result =
        .done (some r) ∧ r.isCompleted = true ∧ Instant.epoch < r.expiresAt) ∧
      ((Remote.store "guard").read (server (minuteCached ++ released)).inner .epoch "k").result =
        .done none) ∧
    (∃ r, ((Remote.store "guard").read (server brieflyCached).inner early "k").result =
        .done (some r) ∧ r.isCompleted = true ∧ onTheDot < r.expiresAt) ∧
      ((Remote.store "guard").read (server brieflyCached).inner onTheDot "k").result =
        .done none := by
  intro memory server released
  have reads : ∀ {now answer}, readsUntilAfter (.serial 1) now answer = true →
      ∃ r, answer = .done (some r) ∧ r.isCompleted = true ∧ now < r.expiresAt := by
    intro now answer h
    obtain ⟨r, read, completed, -, alive, -⟩ := exists_of_readsUntilAfter h
    exact ⟨r, read, completed, alive⟩
  refine ⟨⟨reads ?memory, rfl⟩, ⟨reads ?server, rfl⟩, reads ?briefly, rfl⟩
  all_goals decide +kernel

end Turnstile
