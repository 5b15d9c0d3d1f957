import Mathlib.Data.List.Nodup
import Turnstile.Proofs.Store.Tenure

/-!
Where an outcome that stands on a key comes from. Main statements: an outcome that stands on a key
was cached by the completion of the last lease on it (`exists_lastOn_of_standing`,
`exists_complete_of_settled`), and an outcome that was cached for the last lease on a key stands
there as long as the lease is not ended once more (`settled_of_complete`). The last lease on a key
itself is held until somebody tries to end it (`held_of_lastOn`).
-/

namespace Turnstile.Store

variable {key : String} {journal more before after : List Entry} {e : Entry} {g : Standing}

/-! ## The last lease on a key -/

/-- Of some leases in the order of their grants this is the last one on a key. -/
structure Grant.LastOn (a : Grant) (key : String) (grants : List Grant) : Prop where
  here : a.key = key
  last : ∃ before after, grants = before ++ a :: after ∧ ∀ b ∈ after, b.key ≠ key

namespace Grant.LastOn

variable {a b : Grant} {grants others : List Grant}

theorem self (a : Grant) (grants : List Grant) : a.LastOn a.key (grants ++ [a]) :=
  ⟨rfl, grants, [], rfl, by simp⟩

/-- Leases on other keys do not count. -/
theorem append (h : a.LastOn key grants) (elsewhere : ∀ b ∈ others, b.key ≠ key) :
    a.LastOn key (grants ++ others) := by
  obtain ⟨here, before, after, rfl, last⟩ := h
  refine ⟨here, before, after ++ others, by simp, fun b hb => ?_⟩
  rcases List.mem_append.1 hb with hb | hb
  · exact last b hb
  · exact elsewhere b hb

/-- After a lease that is the last one on a key no other was granted on it. -/
theorem elsewhere (h : a.LastOn key (grants ++ others)) (mem : a ∈ grants)
    (nodup : (grants ++ others).Nodup) : ∀ b ∈ others, b.key ≠ key := by
  obtain ⟨-, before, after, split, last⟩ := h
  obtain ⟨before', between, rfl⟩ := List.append_of_mem mem
  have once : a ∉ before ∧ a ∉ after := by
    have nodup' := split ▸ nodup
    rw [List.nodup_append, List.nodup_cons] at nodup'
    exact ⟨fun h => nodup'.2.2 a h a (by simp) rfl, nodup'.2.1.1⟩
  rw [List.append_assoc, List.cons_append] at split
  have same := (List.append_cons_inj_of_notMem once.1 once.2).1 split.symm
  intro b hb
  refine last b ?_
  rw [same.2.2]
  exact List.mem_append_right _ hb

end Grant.LastOn

/-! ## From the standing to the entries -/

/-- A standing is that of the last lease on its key. -/
theorem exists_lastOn_of_standing (inRange : ∀ e ∈ journal, e.InRange)
    (stands : standing key journal = some g) :
    ∃ a : Grant, a.LastOn key (journal.filterMap Entry.grant?) ∧ a.owner = g.owner := by
  induction journal using List.reverseRecOn generalizing g with
  | nil => cases stands
  | append_singleton journal e ih =>
    have ih := fun {g} => ih (g := g) fun e he => inRange e (List.mem_append_left _ he)
    rw [List.filterMap_append]
    have ungranted : e.grant? = none → [e].filterMap Entry.grant? = [] := fun h => by simp [h]
    cases Standing.left_of_append stands with
    | kept before ungranted' =>
      obtain ⟨a, last, owned⟩ := ih before
      refine ⟨a, last.append fun b hb => ?_, owned⟩
      obtain ⟨e', he', granted⟩ := List.mem_filterMap.1 hb
      rw [List.mem_singleton.1 he'] at granted
      obtain ⟨ends, news, -⟩ := Entry.newsOf?_of_granted (inRange e (by simp)) granted
      intro here
      exact ungranted' _ _ _ _ (here ▸ news)
    | @granted a granted here owned held =>
      refine ⟨a, ?_, owned⟩
      rw [show [e].filterMap Entry.grant? = [a] by simp [granted], ← here]
      exact .self a _
    | settled before same call applied fate limit =>
      obtain ⟨a, last, owned⟩ := ih before
      have ends : e.call.finalizes? = some g.owner := by rw [call]; rfl
      rw [ungranted (grant?_of_finalizes? ends), List.append_nil]
      exact ⟨a, last, owned.trans same.symm⟩
    | freed before same call fate =>
      obtain ⟨a, last, owned⟩ := ih before
      have ends : e.call.finalizes? = some g.owner := by rw [call]; rfl
      rw [ungranted (grant?_of_finalizes? ends), List.append_nil]
      exact ⟨a, last, owned.trans same.symm⟩

/-- An outcome that stands on a key was cached by a completion, for as long as it stands. -/
theorem exists_complete_of_settled {outcome : Outcome} (stands : standing key journal = some g)
    (settled : g.fate = .settled outcome) :
    ∃ e ∈ journal, ∃ window, e.call = .complete key g.owner outcome window ∧
      e.answer = .done (.finality .applied) ∧ e.now.deadline? window = some g.ends := by
  induction journal using List.reverseRecOn generalizing g with
  | nil => cases stands
  | append_singleton journal e ih =>
    cases Standing.left_of_append stands with
    | kept before ungranted =>
      obtain ⟨e', mem, rest⟩ := ih before settled
      exact ⟨e', List.mem_append_left _ mem, rest⟩
    | granted granted here owned held =>
      rw [held] at settled
      cases settled
    | settled before same call applied fate limit =>
      rw [fate] at settled
      cases settled
      exact ⟨e, by simp, _, call, applied, limit⟩
    | freed before same call fate =>
      rw [fate] at settled
      cases settled

/-! ## From the entries to the standing -/

/-- A standing stays as long as no lease is granted on the key and its own is not ended. -/
theorem standing_append_of_undisturbed (stands : standing key journal = some g)
    (ungranted : ∀ a ∈ more.filterMap Entry.grant?, a.key ≠ key)
    (unended : finals g.owner more = []) : standing key (journal ++ more) = some g := by
  induction more using List.reverseRecOn with
  | nil => rwa [List.append_nil]
  | append_singleton more e ih =>
    rw [finals_append, List.append_eq_nil_iff] at unended
    have kept := ih (fun a ha => ungranted a (by simp [List.filterMap_append, ha])) unended.1
    have other : e.call.finalizes? ≠ some g.owner := by
      simpa [finals, List.filter_eq_nil_iff] using unended.2
    rw [← List.append_assoc]
    cases news : e.newsOf? key with
    | none => rw [standing_append_of_silent news, kept]
    | some n =>
      rw [standing_append_of_news news, kept]
      cases n with
      | granted owner since ends forced =>
        obtain ⟨lease, granted⟩ := Entry.exists_grant?_of_newsOf? news
        have mem := List.mem_filterMap.2 ⟨e, List.mem_append_right more (List.mem_singleton_self e),
          granted⟩
        exact absurd rfl (ungranted _ mem)
      | settled owner outcome ends =>
        obtain ⟨window, call, -, -⟩ := Entry.exists_complete_of_newsOf? news
        have strange : g.owner ≠ owner := fun same => other (by rw [call, same]; rfl)
        rw [Standing.update, if_neg strange]
      | freed owner =>
        obtain ⟨call, -⟩ := Entry.release_of_newsOf? news
        have strange : g.owner ≠ owner := fun same => other (by rw [call, same]; rfl)
        rw [Standing.update, if_neg strange]

/-- The last lease on a key is held until its window ends, as long as nobody tried to end it. -/
theorem held_of_lastOn {a : Grant} (inRange : ∀ e ∈ journal, e.InRange)
    (distinct : (journal.filterMap Entry.grant?).Pairwise (·.owner ≠ ·.owner))
    (last : a.LastOn key (journal.filterMap Entry.grant?)) (unended : finals a.owner journal = []) :
    ∃ ends, standing key journal = some ⟨a.owner, a.since, ends, .held⟩ ∧
      a.since.deadline? a.lease = some ends := by
  have mem : a ∈ journal.filterMap Entry.grant? := by
    obtain ⟨-, before, after, grants, -⟩ := last
    rw [grants]
    exact List.mem_append_right _ List.mem_cons_self
  obtain ⟨e, he, granted⟩ := List.mem_filterMap.1 mem
  obtain ⟨past, later, rfl⟩ := List.append_of_mem he
  obtain ⟨ends, news, limit⟩ := Entry.newsOf?_of_granted (inRange e he) granted
  have split : past ++ e :: later = past ++ [e] ++ later := by simp
  rw [split] at distinct last unended ⊢
  rw [last.here] at news
  rw [finals_append, List.append_eq_nil_iff] at unended
  have held : standing key (past ++ [e]) = some ⟨a.owner, a.since, ends, .held⟩ := by
    rw [standing_append_of_news news]
    cases standing key past <;> rfl
  rw [List.filterMap_append] at distinct last
  have elsewhere := last.elsewhere
    (by rw [List.filterMap_append]; exact List.mem_append_right _ (by simp [granted]))
    (distinct.imp fun ne same => ne (congrArg _ same))
  exact ⟨ends, standing_append_of_undisturbed held elsewhere unended.2, limit⟩

/-- An outcome that was cached for the last lease on a key stands there as long as the lease is not
ended once more. -/
theorem settled_of_complete {a : Grant} {outcome : Outcome} {window : Span}
    (answered : Answered (before ++ e :: after)) (inRange : e.InRange)
    (distinct : ((before ++ e :: after).filterMap Entry.grant?).Pairwise (·.owner ≠ ·.owner))
    (last : a.LastOn key ((before ++ e :: after).filterMap Entry.grant?))
    (call : e.call = .complete key a.owner outcome window)
    (applied : e.answer = .done (.finality .applied)) (unended : finals a.owner after = []) :
    ∃ g, standing key (before ++ e :: after) = some g ∧ g.owner = a.owner ∧
      g.fate = .settled outcome ∧ e.now.deadline? window = some g.ends := by
  have split : before ++ e :: after = before ++ [e] ++ after := by simp
  rw [split] at answered distinct last ⊢
  obtain ⟨g, held, mine, -⟩ := held_of_complete (Throughout.left answered) inRange call applied
  obtain ⟨ends, limit⟩ :=
    (inRange window (by simp [call, Call.window?])).exists_deadline?
  have news : e.newsOf? key = some (.settled a.owner outcome ends) :=
    newsOf?_eq_some_iff.2 (by simp [Entry.news?, call, applied, limit])
  have settled : standing key (before ++ [e]) =
      some { g with ends := ends, fate := .settled outcome } := by
    rw [standing_append_of_news news, held, Standing.update, if_pos mine]
  -- the lease was granted before its completion, so no other on the key was granted after it
  rw [List.filterMap_append] at distinct last
  have mem : a ∈ (before ++ [e]).filterMap Entry.grant? := by
    obtain ⟨a', mem, -, owned⟩ := exists_grant?_of_standing held
    have mem' : a' ∈ (before ++ [e]).filterMap Entry.grant? := by
      rw [List.filterMap_append]
      exact List.mem_append_left _ mem
    obtain ⟨-, earlier, later, whole, -⟩ := last
    have unique := List.inj_on_of_nodup_map (List.pairwise_map.2 distinct)
    have same := unique (List.mem_append_left _ mem') (whole ▸ by simp : a ∈ _) (owned.trans mine)
    exact same ▸ mem'
  have elsewhere := last.elsewhere mem (distinct.imp fun ne same => ne (congrArg _ same))
  refine ⟨_, standing_append_of_undisturbed settled elsewhere ?_, mine, rfl, limit⟩
  rw [show ({ g with ends := ends, fate := .settled outcome } : Standing).owner = a.owner from mine]
  exact unended

end Turnstile.Store
