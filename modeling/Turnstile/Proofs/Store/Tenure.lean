import Turnstile.Proofs.Store.View

/-!
Tenures: what a journal tells of one lease, from its grant until another lease takes its place, and
after that. Main statement: a lease gives way to the next one on its key only when it was released,
or when its window or that of its outcome had ended, and once it gave way nothing more is told of it
(`Regular.gaveWay`).
-/

namespace Turnstile.Store

/-! ## Entries about one lease -/

namespace Entry

/-- An entry caches an outcome for a lease, for a validity window. -/
def Completes (e : Entry) (a : Grant) (window : Span) : Prop :=
  (∃ outcome, e.call = .complete a.key a.owner outcome window) ∧
    e.answer = .done (.finality .applied)

/-- An entry removes the record of a lease. -/
def Releases (e : Entry) (a : Grant) : Prop :=
  e.call = .release a.key a.owner ∧ e.answer = .done (.finality .applied)

variable {e : Entry} {key : String} {a : Grant}

/-- News of a lease come from its grant. -/
theorem exists_grant?_of_newsOf? {owner : Token} {since ends : Instant} {forced : Bool}
    (h : e.newsOf? key = some (.granted owner since ends forced)) :
    ∃ lease, e.grant? = some ⟨key, owner, since, lease, forced⟩ := by
  rw [newsOf?_eq_some_iff, news?] at h
  split at h <;> simp_all [grant?]

/-- News of an outcome come from a completion. -/
theorem exists_complete_of_newsOf? {owner : Token} {outcome : Outcome} {ends : Instant}
    (h : e.newsOf? key = some (.settled owner outcome ends)) :
    ∃ window, e.call = .complete key owner outcome window ∧
      e.answer = .done (.finality .applied) ∧ e.now.deadline? window = some ends := by
  rw [newsOf?_eq_some_iff, news?] at h
  split at h <;> simp_all

/-- News of a removal come from a release. -/
theorem release_of_newsOf? {owner : Token} (h : e.newsOf? key = some (.freed owner)) :
    e.call = .release key owner ∧ e.answer = .done (.finality .applied) := by
  rw [newsOf?_eq_some_iff, news?] at h
  split at h <;> simp_all

/-- A lease is granted for the window that was asked for. -/
theorem window?_of_grant? (h : e.grant? = some a) : e.call.window? = some a.lease := by
  rw [grant?] at h
  split at h <;> cases h <;> simp_all [Call.window?]

/-- A grant is news of its key. -/
theorem newsOf?_of_granted (inRange : e.InRange) (h : e.grant? = some a) :
    ∃ ends, e.newsOf? a.key = some (.granted a.owner a.since ends a.forced) ∧
      a.since.deadline? a.lease = some ends := by
  obtain ⟨ends, hends⟩ := (inRange a.lease (window?_of_grant? h)).exists_deadline?
  simp only [newsOf?_eq_some_iff]
  rw [grant?] at h
  split at h
  · rename_i key lease fresh owner call answer
    cases h
    exact ⟨ends, by simp [news?, call, answer, hends], hends⟩
  · rename_i key lease fresh owner call answer
    cases h
    exact ⟨ends, by simp [news?, call, answer, hends], hends⟩
  · cases h

/-- A grant of a window that fits is news of its key. -/
theorem newsOf?_of_grant? (fits : e.Fits) (h : e.grant? = some a) :
    ∃ ends, e.newsOf? a.key = some (.granted a.owner a.since ends a.forced) ∧
      a.since.add? a.lease = some ends := by
  obtain ⟨ends, news, hends⟩ := newsOf?_of_granted fits.inRange h
  have fit := fits a.lease (window?_of_grant? h)
  rw [now_of_grant? h] at fit
  exact ⟨ends, news, fit.deadline?_eq ▸ hends⟩

/-- A completion is news of its key. -/
theorem newsOf?_of_complete {owner : Token} {outcome : Outcome} {window : Span}
    (inRange : e.InRange) (call : e.call = .complete key owner outcome window)
    (applied : e.answer = .done (.finality .applied)) :
    ∃ ends, e.newsOf? key = some (.settled owner outcome ends) := by
  obtain ⟨ends, hends⟩ := (inRange window (by simp [call, Call.window?])).exists_deadline?
  exact ⟨ends, newsOf?_eq_some_iff.2 (by simp [news?, call, applied, hends])⟩

/-- A release is news of its key. -/
theorem newsOf?_of_release {owner : Token} (call : e.call = .release key owner)
    (applied : e.answer = .done (.finality .applied)) : e.newsOf? key = some (.freed owner) :=
  newsOf?_eq_some_iff.2 (by simp [news?, call, applied])

theorem Completes.grant? {window : Span} (h : e.Completes a window) : e.grant? = none := by
  obtain ⟨⟨outcome, call⟩, -⟩ := h
  have ended : e.call.finalizes? = some a.owner := by
    rw [call]
    rfl
  exact grant?_of_finalizes? ended

theorem Releases.grant? (h : e.Releases a) : e.grant? = none := by
  have ended : e.call.finalizes? = some a.owner := by
    rw [h.1]
    rfl
  exact grant?_of_finalizes? ended

end Entry

/-- An outcome is cached for a lease only while it is held. -/
theorem held_of_complete {journal : List Entry} {e : Entry} (answered : Answered (journal ++ [e]))
    (inRange : e.InRange) {key : String} {owner : Token} {outcome : Outcome} {window : Span}
    (call : e.call = .complete key owner outcome window)
    (applied : e.answer = .done (.finality .applied)) :
    ∃ g, standing key journal = some g ∧ g.owner = owner ∧ g.fate = .held ∧ e.now < g.ends := by
  have answer := Throughout.last answered (by simp [call])
  have fits := inRange window (by simp [call, Call.window?])
  obtain ⟨⟨now, call'⟩, answer'⟩ := e
  subst call
  rw [applied, Sight.snd_next_complete _ key owner outcome fits] at answer
  refine any_expected_pending_iff.1 ?_
  by_contra lost
  rw [if_neg lost] at answer
  simp at answer

/-! ## Regular journals -/

/-- A journal of a store that always answered from what was to be seen, in the order of time, whose
windows all fit, and in which no two leases have one token and none on the key was seized. -/
structure Regular (key : String) (journal : List Entry) : Prop where
  answered : Answered journal
  chronological : journal.Pairwise (·.now ≤ ·.now)
  fits : ∀ e ∈ journal, e.Fits
  distinct : (journal.filterMap Entry.grant?).Pairwise (·.owner ≠ ·.owner)
  unforced : ∀ e ∈ journal, ∀ a, e.grant? = some a → a.key = key → a.forced = false

namespace Regular

variable {key : String} {journal more : List Entry} {e : Entry}

theorem left (h : Regular key (journal ++ more)) : Regular key journal where
  answered := Throughout.left h.answered
  chronological := (List.pairwise_append.1 h.chronological).1
  fits e he := h.fits e (List.mem_append_left _ he)
  distinct := by
    have distinct := h.distinct
    rw [List.filterMap_append] at distinct
    exact (List.pairwise_append.1 distinct).1
  unforced e he := h.unforced e (List.mem_append_left _ he)

theorem answer_last (h : Regular key (journal ++ [e])) (call : e.call ≠ .purge) :
    e.answer = ((expected journal e.now).next e.toTimed).2 :=
  Throughout.last h.answered call

theorem inRange_last (h : Regular key (journal ++ [e])) : e.InRange :=
  (h.fits e (by simp)).inRange

/-- A token is granted once. -/
theorem owner_ne (h : Regular key (journal ++ [e])) {e' : Entry} {a b : Grant} (mem : e' ∈ journal)
    (granted : e'.grant? = some a) (granted' : e.grant? = some b) : a.owner ≠ b.owner := by
  have distinct := h.distinct
  rw [List.filterMap_append] at distinct
  exact (List.pairwise_append.1 distinct).2.2 a (List.mem_filterMap.2 ⟨e', mem, granted⟩) b
    (List.mem_filterMap.2 ⟨e, by simp, granted'⟩)

/-- An outcome is cached for a lease only while it is held. -/
theorem standing_of_complete (h : Regular key (journal ++ [e])) {k : String} {owner : Token}
    {outcome : Outcome} {window : Span} (call : e.call = .complete k owner outcome window)
    (applied : e.answer = .done (.finality .applied)) :
    ∃ g, standing k journal = some g ∧ g.owner = owner := by
  obtain ⟨g, hg, mine, -⟩ := held_of_complete h.answered h.inRange_last call applied
  exact ⟨g, hg, mine⟩

/-- A record is removed for a lease only while it stands. -/
theorem standing_of_release (h : Regular key (journal ++ [e])) {k : String} {owner : Token}
    (call : e.call = .release k owner) (applied : e.answer = .done (.finality .applied)) :
    ∃ g, standing k journal = some g ∧ g.owner = owner := by
  have answer := h.answer_last (by simp [call])
  obtain ⟨⟨now, call'⟩, answer'⟩ := e
  subst call
  rw [applied, Sight.snd_next_release] at answer
  have there : ((expected journal now) k).any (·.isOwnedBy owner) = true := by
    by_contra lost
    rw [if_neg lost] at answer
    simp at answer
  obtain ⟨g, hg, mine, -⟩ := any_expected_owned_iff.1 there
  exact ⟨g, hg, mine⟩

/-- A key is granted to a caller only when nothing is seen of it. -/
theorem ended_of_grant (h : Regular key (journal ++ [e])) {b : Grant}
    (granted : e.grant? = some b) (here : b.key = key) {g : Standing}
    (hg : standing key journal = some g) : g.fate = .freed ∨ g.ends ≤ e.now := by
  have unforced := h.unforced e (by simp) b granted here
  by_contra lives
  rw [not_or, not_le] at lives
  obtain ⟨r, hr⟩ := (Standing.exists_record?_iff key g).2 lives.1
  have seen : expected journal e.now key = some r := expected_eq_some_iff.2 ⟨g, hg, hr, lives.2⟩
  rw [Entry.grant?] at granted
  split at granted
  · rename_i k lease fresh owner call answer
    cases granted
    have answered := h.answer_last (by simp [call])
    obtain ⟨⟨now, call'⟩, answer'⟩ := e
    subst call answer here
    simp [Sight.next, seen] at answered
  · cases granted
    cases unforced
  · cases granted

end Regular

/-- How an entry may have left a standing: as it was, granting no lease on the key; anew; or with
the outcome or the removal that the entry tells of. -/
inductive Standing.Left (key : String) (journal : List Entry) (e : Entry) (g : Standing) : Prop
  | kept (before : standing key journal = some g)
      (ungranted : ∀ owner since ends forced,
        e.newsOf? key ≠ some (.granted owner since ends forced))
  | granted {a : Grant} (granted : e.grant? = some a) (here : a.key = key)
      (owned : a.owner = g.owner) (held : g.fate = .held)
  | settled {g' : Standing} {outcome : Outcome} {window : Span}
      (before : standing key journal = some g') (same : g.owner = g'.owner)
      (call : e.call = .complete key g.owner outcome window)
      (applied : e.answer = .done (.finality .applied)) (fate : g.fate = .settled outcome)
      (limit : e.now.deadline? window = some g.ends)
  | freed {g' : Standing} (before : standing key journal = some g') (same : g.owner = g'.owner)
      (call : e.call = .release key g.owner) (fate : g.fate = .freed)

theorem Standing.left_of_append {key : String} {journal : List Entry} {e : Entry} {g : Standing}
    (h : standing key (journal ++ [e]) = some g) : Standing.Left key journal e g := by
  cases news : e.newsOf? key with
  | none =>
    rw [standing_append_of_silent news] at h
    exact .kept h (by simp [news])
  | some n =>
    rw [standing_append_of_news news] at h
    cases n with
    | granted owner since ends forced =>
      obtain ⟨lease, granted⟩ := Entry.exists_grant?_of_newsOf? news
      cases h
      exact .granted granted rfl rfl rfl
    | settled owner outcome ends =>
      obtain ⟨window, call, applied, limit⟩ := Entry.exists_complete_of_newsOf? news
      cases before : standing key journal with
      | none =>
        rw [before] at h
        cases h
      | some g' =>
        rw [before, update] at h
        split at h <;> cases h
        · rename_i mine
          exact .settled before rfl (mine ▸ call) applied rfl limit
        · exact .kept before (by simp [news])
    | freed owner =>
      obtain ⟨call, -⟩ := Entry.release_of_newsOf? news
      cases before : standing key journal with
      | none =>
        rw [before] at h
        cases h
      | some g' =>
        rw [before, update] at h
        split at h <;> cases h
        · rename_i mine
          exact .freed before rfl (mine ▸ call) rfl
        · exact .kept before (by simp [news])

/-- A standing was there before an entry, was ended by it, or comes from its grant. -/
theorem Standing.of_append {key : String} {journal : List Entry} {e : Entry} {g : Standing}
    (h : standing key (journal ++ [e]) = some g) :
    standing key journal = some g ∨
      (∃ g', standing key journal = some g' ∧ g.owner = g'.owner ∧
        e.call.finalizes? = some g.owner ∧ g.fate ≠ .held) ∨
      ∃ a, e.grant? = some a ∧ a.key = key ∧ a.owner = g.owner ∧ g.fate = .held := by
  cases Standing.left_of_append h with
  | kept before ungranted => exact .inl before
  | granted granted here owned held => exact .inr (.inr ⟨_, granted, here, owned, held⟩)
  | settled before same call applied fate limit =>
    exact .inr (.inl ⟨_, before, same, by rw [call]; rfl, by simp [fate]⟩)
  | freed before same call fate =>
    exact .inr (.inl ⟨_, before, same, by rw [call]; rfl, by simp [fate]⟩)

/-- Every standing goes back to a grant. -/
theorem exists_grant?_of_standing {key : String} {journal : List Entry} {g : Standing}
    (h : standing key journal = some g) :
    ∃ a ∈ journal.filterMap Entry.grant?, a.key = key ∧ a.owner = g.owner := by
  induction journal using List.reverseRecOn generalizing g with
  | nil => simp at h
  | append_singleton journal e ih =>
    rw [List.filterMap_append]
    rcases Standing.of_append h with before | ⟨g', before, same, -⟩ | granted
    · obtain ⟨a, mem, owned⟩ := ih before
      exact ⟨a, List.mem_append_left _ mem, owned⟩
    · obtain ⟨a, mem, here, owned⟩ := ih before
      exact ⟨a, List.mem_append_left _ mem, here, owned.trans same.symm⟩
    · obtain ⟨a, granted, here, owned, -⟩ := granted
      exact ⟨a, List.mem_append_right _ (by simp [granted]), here, owned⟩

/-! ## Tenures -/

/-- What a journal tells of a lease, with the end of its window: it was granted and never
completed; its outcome was cached; its record was removed. -/
def Grant.Told (a : Grant) (journal : List Entry) (ends : Instant) : Fate → Prop
  | .held => (∀ e ∈ journal, ∀ window, ¬e.Completes a window) ∧ a.since.add? a.lease = some ends
  | .settled _ => ∃ e ∈ journal, ∃ window, e.Completes a window ∧ e.now.add? window = some ends
  | .freed => ∃ e ∈ journal, e.Releases a

/-- A lease is the last one on its key, and stands there as the journal tells. -/
def Grant.Current (a : Grant) (journal : List Entry) : Prop :=
  ∃ g, standing a.key journal = some g ∧ g.owner = a.owner ∧ a.Told journal g.ends g.fate

/-- Another lease has taken the place of a lease. -/
structure Grant.Displaced (a : Grant) (ends : Instant) (fate : Fate) (journal : List Entry) :
    Prop where
  other : ∃ g, standing a.key journal = some g ∧ g.owner ≠ a.owner
  told : a.Told journal ends fate

section

variable {a : Grant} {journal : List Entry} {e eA : Entry} {ends : Instant} {fate : Fate}

/-- What is told of a lease stays true as long as its outcome is not cached. -/
theorem Grant.Told.append (h : a.Told journal ends fate)
    (incomplete : ∀ window, ¬e.Completes a window) : a.Told (journal ++ [e]) ends fate := by
  cases fate with
  | held =>
    refine ⟨fun e' he' => ?_, h.2⟩
    rcases List.mem_append.1 he' with he' | he'
    · exact h.1 e' he'
    · rw [List.mem_singleton.1 he']
      exact incomplete
  | settled outcome =>
    obtain ⟨e', he', told⟩ := h
    exact ⟨e', List.mem_append_left _ he', told⟩
  | freed =>
    obtain ⟨e', he', told⟩ := h
    exact ⟨e', List.mem_append_left _ he', told⟩

/-- A lease that was displaced stays so, and nothing more is told of it. -/
theorem Grant.Displaced.append (h : a.Displaced ends fate journal)
    (regular : Regular a.key (journal ++ [e])) (mem : eA ∈ journal)
    (granted : eA.grant? = some a) : a.Displaced ends fate (journal ++ [e]) := by
  obtain ⟨g, hg, other⟩ := h.other
  constructor
  · cases news : e.newsOf? a.key with
    | none => exact ⟨g, by rw [standing_append_of_silent news, hg], other⟩
    | some n =>
      rw [standing_append_of_news news, hg]
      cases n with
      | granted owner since ends forced =>
        obtain ⟨lease, granted'⟩ := Entry.exists_grant?_of_newsOf? news
        exact ⟨_, rfl, (regular.owner_ne mem granted granted').symm⟩
      | settled owner outcome ends =>
        refine ⟨_, rfl, ?_⟩
        split <;> exact other
      | freed owner =>
        refine ⟨_, rfl, ?_⟩
        split <;> exact other
  · refine h.told.append ?_
    rintro window ⟨⟨outcome, call⟩, applied⟩
    obtain ⟨g', hg', mine⟩ := regular.standing_of_complete call applied
    rw [hg] at hg'
    cases hg'
    exact other mine

theorem Grant.Displaced.run {more : List Entry} (h : a.Displaced ends fate journal)
    (regular : Regular a.key (journal ++ more)) (mem : eA ∈ journal)
    (granted : eA.grant? = some a) : a.Displaced ends fate (journal ++ more) := by
  induction more using List.reverseRecOn with
  | nil => simpa using h
  | append_singleton more e ih =>
    rw [← List.append_assoc] at regular ⊢
    exact (ih regular.left).append regular (List.mem_append_left _ mem) granted

/-- A lease is current when it is granted. -/
theorem Grant.current_of_grant (regular : Regular a.key (journal ++ [e]))
    (granted : e.grant? = some a) : a.Current (journal ++ [e]) := by
  obtain ⟨ends, news, hends⟩ := Entry.newsOf?_of_grant? (regular.fits e (by simp)) granted
  refine ⟨_, standing_append_of_news news journal, rfl, ?_, hends⟩
  intro e' he' window completes
  rcases List.mem_append.1 he' with he' | he'
  · -- a token that was drawn for this lease stood for none before
    obtain ⟨before, after, rfl⟩ := List.append_of_mem he'
    obtain ⟨⟨outcome, call⟩, applied⟩ := completes
    have earlier : Regular a.key ((before ++ [e']) ++ (after ++ [e])) := by simpa using regular
    obtain ⟨g, hg, mine⟩ := earlier.left.standing_of_complete call applied
    obtain ⟨b, mem, -, owned⟩ := exists_grant?_of_standing hg
    obtain ⟨e'', mem, granted'⟩ := List.mem_filterMap.1 mem
    exact regular.owner_ne (List.mem_append_left _ mem) granted' granted (owned.trans mine)
  · rw [List.mem_singleton.1 he'] at completes
    rw [completes.grant?] at granted
    cases granted

/-- The next grant on a key displaces the lease before, which was removed or has ended by then. -/
theorem Grant.Current.displaced (h : a.Current journal) (regular : Regular a.key (journal ++ [e]))
    (mem : eA ∈ journal) (granted : eA.grant? = some a) {b : Grant} (granted' : e.grant? = some b)
    (same : b.key = a.key) :
    ∃ ends fate, a.Displaced ends fate (journal ++ [e]) ∧ (fate = .freed ∨ ends ≤ e.now) := by
  obtain ⟨g, hg, -, told⟩ := h
  obtain ⟨ends, news, -⟩ := Entry.newsOf?_of_grant? (regular.fits e (by simp)) granted'
  rw [same] at news
  refine ⟨g.ends, g.fate, ⟨?_, told.append fun window completes => ?_⟩,
    regular.ended_of_grant granted' same hg⟩
  · exact ⟨_, standing_append_of_news news journal, (regular.owner_ne mem granted granted').symm⟩
  · rw [completes.grant?] at granted'
    cases granted'

/-- A lease is current until the next grant on its key. -/
theorem Grant.Current.append (h : a.Current journal) (regular : Regular a.key (journal ++ [e]))
    (ungranted : ∀ b, e.grant? = some b → b.key ≠ a.key) : a.Current (journal ++ [e]) := by
  obtain ⟨g, hg, mine, told⟩ := h
  cases news : e.newsOf? a.key with
  | none =>
    refine ⟨g, by rw [standing_append_of_silent news, hg], mine, told.append ?_⟩
    rintro window ⟨⟨outcome, call⟩, applied⟩
    obtain ⟨ends, told⟩ := Entry.newsOf?_of_complete regular.inRange_last call applied
    rw [news] at told
    cases told
  | some n =>
    rw [Grant.Current, standing_append_of_news news, hg]
    cases n with
    | granted owner since ends forced =>
      obtain ⟨lease, granted⟩ := Entry.exists_grant?_of_newsOf? news
      cases ungranted ⟨a.key, owner, since, lease, forced⟩ granted rfl
    | settled owner outcome ends =>
      obtain ⟨window, call, applied, hends⟩ := Entry.exists_complete_of_newsOf? news
      obtain ⟨g', hg', mine'⟩ := regular.standing_of_complete call applied
      rw [hg] at hg'
      cases hg'
      have fit := regular.fits e (by simp) window (by simp [call, Call.window?])
      have completes : e.Completes a window := ⟨⟨outcome, by rw [call, ← mine', mine]⟩, applied⟩
      refine ⟨{ g with ends := ends, fate := .settled outcome }, ?_, mine, ?_⟩
      · rw [Standing.update, if_pos mine']
      · exact ⟨e, by simp, window, completes, fit.deadline?_eq ▸ hends⟩
    | freed owner =>
      obtain ⟨call, applied⟩ := Entry.release_of_newsOf? news
      obtain ⟨g', hg', mine'⟩ := regular.standing_of_release call applied
      rw [hg] at hg'
      cases hg'
      refine ⟨{ g with fate := .freed }, ?_, mine, ?_⟩
      · rw [Standing.update, if_pos mine']
      · exact ⟨e, by simp, by rw [call, ← mine', mine], applied⟩

/-- After its grant a lease is current, or another lease has taken its place after it was removed or
had ended. -/
theorem Grant.current_or_displaced {more : List Entry}
    (regular : Regular a.key (journal ++ [eA] ++ more)) (granted : eA.grant? = some a) :
    a.Current (journal ++ [eA] ++ more) ∨
      ∃ ends fate, a.Displaced ends fate (journal ++ [eA] ++ more) ∧
        (fate = .freed ∨ ∃ e ∈ more, ends ≤ e.now) := by
  have mem : ∀ more', eA ∈ journal ++ [eA] ++ more' := by simp
  induction more using List.reverseRecOn with
  | nil =>
    rw [List.append_nil] at regular ⊢
    exact .inl (Grant.current_of_grant regular granted)
  | append_singleton more e ih =>
    rw [← List.append_assoc] at regular ⊢
    rcases ih regular.left with current | ⟨ends, fate, displaced, ended⟩
    · by_cases granted' : ∃ b, e.grant? = some b ∧ b.key = a.key
      · obtain ⟨b, granted', same⟩ := granted'
        obtain ⟨ends, fate, displaced, ended⟩ :=
          current.displaced regular (mem more) granted granted' same
        exact .inr ⟨ends, fate, displaced, ended.imp_right fun le => ⟨e, by simp, le⟩⟩
      · exact .inl (current.append regular fun b hb same => granted' ⟨b, hb, same⟩)
    · refine .inr ⟨ends, fate, displaced.append regular (mem more) granted, ?_⟩
      exact ended.imp_right fun ⟨e', he', le⟩ => ⟨e', List.mem_append_left _ he', le⟩

/-- **Giving way.** When a key is granted again, the lease before was removed, or its window or that
of its outcome had ended; and from then on nothing more is told of it. -/
theorem Regular.gaveWay {before between after : List Entry} {eB : Entry} {b : Grant}
    (regular : Regular a.key (before ++ [eA] ++ between ++ [eB] ++ after))
    (granted : eA.grant? = some a) (granted' : eB.grant? = some b) (same : b.key = a.key) :
    ∃ ends fate, a.Told (before ++ [eA] ++ between ++ [eB]) ends fate ∧
      a.Told (before ++ [eA] ++ between ++ [eB] ++ after) ends fate ∧
      (fate = .freed ∨ ends ≤ eB.now) := by
  have mem : eA ∈ before ++ [eA] ++ between := by simp
  have displaced : ∃ ends fate, a.Displaced ends fate (before ++ [eA] ++ between ++ [eB]) ∧
      (fate = .freed ∨ ends ≤ eB.now) := by
    rcases Grant.current_or_displaced regular.left.left granted with
      current | ⟨ends, fate, displaced, ended⟩
    · exact current.displaced regular.left mem granted granted' same
    · refine ⟨ends, fate, displaced.append regular.left mem granted, ended.imp_right ?_⟩
      rintro ⟨e, he, le⟩
      refine le_trans le ?_
      exact (List.pairwise_append.1 regular.left.chronological).2.2 e
        (List.mem_append_right _ he) eB (by simp)
  obtain ⟨ends, fate, displaced, ended⟩ := displaced
  exact ⟨ends, fate, displaced.told,
    (displaced.run regular (List.mem_append_left _ mem) granted).told, ended⟩

end

end Turnstile.Store
