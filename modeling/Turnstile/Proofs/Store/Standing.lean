import Turnstile.Proofs.Store.Sight

/-!
What a journal tells about a key: the last lease that was granted on it, the end of its validity
window, and what became of it. The standing of a key is read off the answers alone; it does not look
at the state of a store. Main statement: as long as a store answers from what is seen of it, what is
seen is what its journal lets one expect (`expected_append`).
-/

namespace Turnstile.Store

/-! ## News -/

/-- What an entry tells about a key: a lease was granted, by force or not; its outcome was cached;
its record was removed. -/
inductive News
  | granted (owner : Token) (since ends : Instant) (forced : Bool)
  | settled (owner : Token) (outcome : Outcome) (ends : Instant)
  | freed (owner : Token)

/-- The news in an entry, with the key that they are about. -/
def Entry.news? (e : Entry) : Option (String × News) :=
  match e.call, e.answer with
  | .claim key lease _, .done (.claim (.acquired owner)) =>
    (e.now.deadline? lease).map fun ends => (key, .granted owner e.now ends false)
  | .seize key lease _, .done (.owner owner) =>
    (e.now.deadline? lease).map fun ends => (key, .granted owner e.now ends true)
  | .complete key owner outcome window, .done (.finality .applied) =>
    (e.now.deadline? window).map fun ends => (key, .settled owner outcome ends)
  | .release key owner, .done (.finality .applied) => some (key, .freed owner)
  | _, _ => none

/-- The news of an entry about one key. -/
def Entry.newsOf? (key : String) (e : Entry) : Option News :=
  (e.news?.filter (·.1 = key)).map (·.2)

/-! ## Standings -/

/-- What became of a lease: it is held until it ends, its outcome is cached, or its record was
removed. -/
inductive Fate
  | held
  | settled (outcome : Outcome)
  | freed

/-- The last lease on a key. -/
structure Standing where
  owner : Token
  since : Instant
  ends : Instant
  fate : Fate

namespace Standing

/-- The standing after news: a lease takes the place of the one before, and what is told of a lease
that was displaced does not count. -/
def update : Option Standing → News → Option Standing
  | _, .granted owner since ends _ => some ⟨owner, since, ends, .held⟩
  | some g, .settled owner outcome ends =>
    some (if g.owner = owner then { g with ends := ends, fate := .settled outcome } else g)
  | some g, .freed owner => some (if g.owner = owner then { g with fate := .freed } else g)
  | none, _ => none

/-- The record that a lease stands for; none once it was removed. -/
def record? (key : String) (g : Standing) : Option Record :=
  match g.fate with
  | .held => some ⟨key, .pending, g.owner, none, none, g.since, g.ends⟩
  | .settled outcome =>
    some ⟨key, .completed, g.owner, some outcome.status, some outcome.payload, g.since, g.ends⟩
  | .freed => none

end Standing

/-- The standing of a key after a journal. -/
def standing (key : String) (journal : List Entry) : Option Standing :=
  (journal.filterMap (Entry.newsOf? key)).foldl Standing.update none

/-- The records of the last leases on all keys. -/
def recorded (journal : List Entry) : Sight :=
  fun key => (standing key journal).bind (Standing.record? key)

/-- What a journal lets one expect to see at a time. -/
def expected (journal : List Entry) (now : Instant) : Sight := (recorded journal).later now

/-! ## Lemmas -/

theorem newsOf?_eq_some_iff {key : String} {e : Entry} {n : News} :
    e.newsOf? key = some n ↔ e.news? = some (key, n) := by
  rw [Entry.newsOf?]
  cases h : e.news? with
  | none => simp
  | some pair =>
    obtain ⟨k, m⟩ := pair
    by_cases hk : k = key
    · simp [Option.filter, hk]
    · simp [Option.filter, hk]

@[simp]
theorem standing_nil (key : String) : standing key [] = none := rfl

theorem standing_append (key : String) (journal more : List Entry) :
    standing key (journal ++ more) =
      (more.filterMap (Entry.newsOf? key)).foldl Standing.update (standing key journal) := by
  rw [standing, List.filterMap_append, List.foldl_append]
  rfl

/-- News change the standing of their key. -/
theorem standing_append_of_news {key : String} {e : Entry} {n : News}
    (h : e.newsOf? key = some n) (journal : List Entry) :
    standing key (journal ++ [e]) = Standing.update (standing key journal) n := by
  simp [standing_append, h]

/-- An entry without news about a key leaves its standing alone. -/
theorem standing_append_of_silent {key : String} {e : Entry} (h : e.newsOf? key = none)
    (journal : List Entry) : standing key (journal ++ [e]) = standing key journal := by
  simp [standing_append, h]

namespace Standing

variable {key : String} {g : Standing} {r : Record}

/-- The record of a lease belongs to its holder. -/
theorem owner_of_record? (h : g.record? key = some r) : r.owner = g.owner := by
  unfold record? at h
  split at h <;> cases h <;> rfl

/-- The record of a lease ends with it. -/
theorem expiresAt_of_record? (h : g.record? key = some r) : r.expiresAt = g.ends := by
  unfold record? at h
  split at h <;> cases h <;> rfl

/-- The record of a lease is pending as long as the lease is held. -/
theorem isPending_of_record? (h : g.record? key = some r) :
    r.isPending = true ↔ g.fate = .held := by
  unfold record? at h
  split at h <;> cases h <;> simp_all [Record.isPending]

theorem isOwnedBy_of_record? (h : g.record? key = some r) (owner : Token) :
    r.isOwnedBy owner = true ↔ g.owner = owner := by
  rw [← owner_of_record? h, Record.isOwnedBy, decide_eq_true_eq]

/-- The outcome of a held lease is put into its record. -/
theorem record?_settled {owner : Token} {outcome : Outcome} {ends : Instant}
    (h : g.record? key = some r) (mine : r.isOwnedBy owner = true) (pending : r.isPending = true) :
    (update (some g) (.settled owner outcome ends)).bind (record? key) =
      some { r.withOutcome outcome with expiresAt := ends } := by
  rw [isOwnedBy_of_record? h] at mine
  rw [isPending_of_record? h] at pending
  have form : r = ⟨key, .pending, g.owner, none, none, g.since, g.ends⟩ := by
    simpa [record?, pending, eq_comm] using h
  simp [update, record?, mine, form, Record.withOutcome]

/-- A lease that its holder gives up has no record any more. -/
theorem record?_freed {owner : Token} (h : g.record? key = some r)
    (mine : r.isOwnedBy owner = true) :
    (update (some g) (.freed owner)).bind (record? key) = none := by
  rw [isOwnedBy_of_record? h] at mine
  simp [update, record?, mine]

/-- A lease has a record until it is removed. -/
theorem exists_record?_iff (key : String) (g : Standing) :
    (∃ r, g.record? key = some r) ↔ g.fate ≠ .freed := by
  unfold record?
  split <;> simp_all

end Standing

/-! ## Expectations -/

theorem expected_of_le (journal : List Entry) {earlier now : Instant} (h : earlier ≤ now) :
    expected journal now = (expected journal earlier).later now :=
  (Sight.later_later (recorded journal) h).symm

theorem expected_later_self (journal : List Entry) (now : Instant) :
    (expected journal now).later now = expected journal now :=
  (expected_of_le journal (le_refl now)).symm

/-- One expects to see the record of a lease that was not removed and has not ended. -/
theorem expected_eq_some_iff {journal : List Entry} {now : Instant} {key : String} {r : Record} :
    expected journal now key = some r ↔
      ∃ g, standing key journal = some g ∧ g.record? key = some r ∧ now < g.ends := by
  show ((standing key journal).bind _).filter _ = some r ↔ _
  rw [Option.filter_eq_some_iff, Option.bind_eq_some_iff]
  constructor
  · rintro ⟨⟨g, hg, hr⟩, live⟩
    refine ⟨g, hg, hr, ?_⟩
    rw [← Standing.expiresAt_of_record? hr, ← Instant.le_eq_false_iff]
    simpa [Record.isExpiredAt] using live
  · rintro ⟨g, hg, hr, before⟩
    rw [← Standing.expiresAt_of_record? hr, ← Instant.le_eq_false_iff] at before
    exact ⟨⟨g, hg, hr⟩, by simpa [Record.isExpiredAt] using before⟩

/-- A record of its holder is expected as long as the last lease is the holder's and in force. -/
theorem any_expected_owned_iff {journal : List Entry} {now : Instant} {key : String}
    {owner : Token} :
    (expected journal now key).any (·.isOwnedBy owner) = true ↔
      ∃ g, standing key journal = some g ∧ g.owner = owner ∧ g.fate ≠ .freed ∧ now < g.ends := by
  rw [Option.any_eq_true]
  constructor
  · rintro ⟨r, seen, mine⟩
    obtain ⟨g, hg, hr, live⟩ := expected_eq_some_iff.1 seen
    exact ⟨g, hg, (Standing.isOwnedBy_of_record? hr owner).1 mine,
      (Standing.exists_record?_iff key g).1 ⟨r, hr⟩, live⟩
  · rintro ⟨g, hg, mine, there, live⟩
    obtain ⟨r, hr⟩ := (Standing.exists_record?_iff key g).2 there
    exact ⟨r, expected_eq_some_iff.2 ⟨g, hg, hr, live⟩,
      (Standing.isOwnedBy_of_record? hr owner).2 mine⟩

/-- A pending record of its holder is expected as long as the last lease is the holder's and held.
-/
theorem any_expected_pending_iff {journal : List Entry} {now : Instant} {key : String}
    {owner : Token} :
    (expected journal now key).any (fun r => r.isOwnedBy owner && r.isPending) = true ↔
      ∃ g, standing key journal = some g ∧ g.owner = owner ∧ g.fate = .held ∧ now < g.ends := by
  simp only [Option.any_eq_true, Bool.and_eq_true]
  constructor
  · rintro ⟨r, seen, mine, pending⟩
    obtain ⟨g, hg, hr, live⟩ := expected_eq_some_iff.1 seen
    exact ⟨g, hg, (Standing.isOwnedBy_of_record? hr owner).1 mine,
      (Standing.isPending_of_record? hr).1 pending, live⟩
  · rintro ⟨g, hg, mine, held, live⟩
    obtain ⟨r, hr⟩ := (Standing.exists_record?_iff key g).2 (by simp [held])
    exact ⟨r, expected_eq_some_iff.2 ⟨g, hg, hr, live⟩,
      (Standing.isOwnedBy_of_record? hr owner).2 mine, (Standing.isPending_of_record? hr).2 held⟩

theorem recorded_append_of_news {e : Entry} {key : String} {n : News}
    (h : e.news? = some (key, n)) (journal : List Entry) :
    recorded (journal ++ [e]) =
      (recorded journal).put key
        ((Standing.update (standing key journal) n).bind (Standing.record? key)) := by
  funext k
  by_cases hk : k = key
  · rw [hk, Sight.put_self, recorded, standing_append_of_news (newsOf?_eq_some_iff.2 h)]
  · have silent : e.newsOf? k = none := by
      simp [Entry.newsOf?, h, Option.filter, Ne.symm hk]
    rw [Sight.put_of_ne _ _ hk, recorded, recorded, standing_append_of_silent silent]

theorem recorded_append_of_no_news {e : Entry} (h : e.news? = none) (journal : List Entry) :
    recorded (journal ++ [e]) = recorded journal := by
  funext k
  have silent : e.newsOf? k = none := by simp [Entry.newsOf?, h]
  rw [recorded, recorded, standing_append_of_silent silent]

theorem expected_append_of_news {e : Entry} (key : String) (n : News)
    (h : e.news? = some (key, n)) (journal : List Entry) (now : Instant) :
    expected (journal ++ [e]) now =
      ((expected journal now).put key
        ((Standing.update (standing key journal) n).bind (Standing.record? key))).later now := by
  rw [Sight.later_put, expected_later_self, expected, recorded_append_of_news h, Sight.later_put]
  rfl

theorem expected_append_of_no_news {e : Entry} (h : e.news? = none) (journal : List Entry)
    (now : Instant) : expected (journal ++ [e]) now = (expected journal now).later now := by
  rw [expected_later_self, expected, recorded_append_of_no_news h]
  rfl

/-- A store that answers a call from what one expects to see shows what one expects after it. -/
theorem expected_append {journal : List Entry} {e : Entry} (inRange : e.toTimed.InRange)
    (answered : e.call ≠ .purge → e.answer = ((expected journal e.now).next e.toTimed).2) :
    expected (journal ++ [e]) e.now =
      ((expected journal e.now).next e.toTimed).1.later e.now := by
  obtain ⟨⟨now, call⟩, answer⟩ := e
  cases call with
  | claim key lease fresh =>
    obtain ⟨ends, hends⟩ := (inRange lease rfl).exists_deadline?
    have answered := answered (by simp)
    simp only [Sight.next, Sight.grant, Record.pending?, hends, Option.map_some] at answered ⊢
    cases seen : expected journal now key with
    | some existing =>
      simp only [seen] at answered ⊢
      exact expected_append_of_no_news (by simp [Entry.news?, answered]) journal now
    | none =>
      simp only [seen] at answered ⊢
      exact expected_append_of_news key (.granted fresh now ends false)
        (by simp [Entry.news?, answered, hends]) journal now
  | seize key lease fresh =>
    obtain ⟨ends, hends⟩ := (inRange lease rfl).exists_deadline?
    have answered := answered (by simp)
    simp only [Sight.next, Sight.grant, Record.pending?, hends, Option.map_some] at answered ⊢
    exact expected_append_of_news key (.granted fresh now ends true)
      (by simp [Entry.news?, answered, hends]) journal now
  | complete key owner outcome window =>
    obtain ⟨ends, hends⟩ := (inRange window rfl).exists_deadline?
    have answered := answered (by simp)
    simp only [Sight.next, hends] at answered ⊢
    cases seen : expected journal now key with
    | none =>
      simp only [seen] at answered ⊢
      exact expected_append_of_no_news (by simp [Entry.news?, answered]) journal now
    | some r =>
      simp only [seen] at answered ⊢
      cases held : r.isOwnedBy owner && r.isPending with
      | false =>
        simp only [held, Bool.false_eq_true, if_false] at answered ⊢
        exact expected_append_of_no_news (by simp [Entry.news?, answered]) journal now
      | true =>
        simp only [held, if_true] at answered ⊢
        obtain ⟨g, hg, hr, -⟩ := expected_eq_some_iff.1 seen
        simp only [Bool.and_eq_true] at held
        rw [expected_append_of_news key (.settled owner outcome ends)
          (by simp [Entry.news?, answered, hends]) journal now, hg,
          Standing.record?_settled hr held.1 held.2]
  | release key owner =>
    have answered := answered (by simp)
    simp only [Sight.next] at answered ⊢
    cases mine : (expected journal now key).any (·.isOwnedBy owner) with
    | false =>
      simp only [mine, Bool.false_eq_true, if_false] at answered ⊢
      exact expected_append_of_no_news (by simp [Entry.news?, answered]) journal now
    | true =>
      simp only [mine, if_true] at answered ⊢
      obtain ⟨r, seen, owned⟩ := (Option.any_eq_true _ _).1 mine
      obtain ⟨g, hg, hr, -⟩ := expected_eq_some_iff.1 seen
      rw [expected_append_of_news key (.freed owner)
        (by simp [Entry.news?, answered]) journal now, hg, Standing.record?_freed hr owned]
  | read key => exact expected_append_of_no_news rfl journal now
  | purge => exact expected_append_of_no_news rfl journal now

end Turnstile.Store
