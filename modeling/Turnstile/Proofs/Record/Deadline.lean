import Turnstile.Proofs.Memory.Completion
import Turnstile.Proofs.Time.Deadline
import Turnstile.Settings.Basic
import Turnstile.Store.Remote

/-!
The ends of records. Leases and cached outcomes get their ends from the same sum, and a sum beyond
the calendar breaks a call off. Main statement: at a current time a record gets its end exactly if
its window lasts, and of two windows the longer one does not end before the shorter one, unless it
alone is cut to a century (`deadline_exact`). So the ends are in order and never missing for windows
of up to 7956864576000 seconds, some 252000 years.
-/

namespace Turnstile

variable {now : Instant}

/-- A record with its lease, if the lease has an end. -/
theorem Record.pending?_eq_some_iff {key : String} {owner : Token} {lease : Span} {r : Record} :
    Record.pending? now key owner lease = some r ↔
      r = ⟨key, .pending, owner, none, none, now, r.expiresAt⟩ ∧ lease.Runs now r.expiresAt := by
  rw [Record.pending?, Option.map_eq_some_iff, Span.runs_iff_deadline?]
  constructor
  · rintro ⟨ends, limit, rfl⟩
    exact ⟨rfl, limit⟩
  · rintro ⟨same, limit⟩
    exact ⟨r.expiresAt, limit, same.symm⟩

theorem Remote.attempt_ne_overflow {α : Type} (result : Except Fault α) :
    Remote.attempt result ≠ .overflow := by
  intro same
  cases result <;> cases same

/-- A completion on a server breaks off for want of an end, and for nothing else. -/
theorem Remote.result_complete_eq_overflow_iff {keyPrefix key : String} {s : Remote.State}
    {owner : Token} {outcome : Outcome} {window : Span} :
    (Remote.complete keyPrefix s now key owner outcome window).result = .overflow ↔
      ¬window.InRange now := by
  unfold Remote.complete Span.InRange
  cases now.deadline? window with
  | none => simp
  | some ends =>
    constructor
    · intro overflow
      exact absurd overflow (Remote.attempt_ne_overflow _)
    · intro endless
      exact absurd rfl endless

/-- Windows of up to 252000 years last, and end in the order of their lengths. -/
theorem Span.exists_runs_le (current : now.Current) {few many : Nat} (le : few ≤ many)
    (short : many ≤ 7956864576000) :
    ∃ sooner later, (Span.ofSeconds few).Runs now sooner ∧ (Span.ofSeconds many).Runs now later ∧
      sooner ≤ later := by
  have lasts : ∀ n ≤ many, (Span.ofSeconds n).Lasts now := by
    intro n small
    have total := current.totalNanos_lt
    right
    rw [Span.nanos_ofSeconds]
    unfold Instant.horizon
    omega
  obtain ⟨sooner, first⟩ := (lasts few le).exists_runs current
  obtain ⟨later, second⟩ := (lasts many le_rfl).exists_runs current
  have uncut : (Span.ofSeconds many).nanos ≤ Span.longest.nanos := by
    rw [Span.nanos_ofSeconds, Span.nanos_longest]
    omega
  have inOrder : (Span.ofSeconds few).nanos ≤ (Span.ofSeconds many).nanos :=
    Nat.mul_le_mul_right _ le
  exact ⟨sooner, later, first, second, (Span.le_deadline?_iff inOrder first second).2 (.inl uncut)⟩

namespace Record

/-- **Deadlines.** At a current time a fresh lease has its end exactly if it lasts. A record that is
completed gets its new end exactly if the window lasts, in memory as on a server; any other window
breaks the completion off. Of two windows with ends the longer one does not end first, unless it is
cut and the shorter one is not and is longer than a century. For windows of up to 252000 years both
ends are there and in order. -/
theorem deadline_exact (current : now.Current) :
    (∀ (key : String) (owner : Token) (lease : Span), lease.Lasts now ↔
      ∃ r, pending? now key owner lease = some r ∧ r.createdAt = now ∧
        lease.Runs now r.expiresAt) ∧
    (∀ (s : Memory.State) (key : String) (owner : Token) (outcome : Outcome) (window : Span)
      (r : Record), Memory.completable? s now key owner = some r →
      let left := Memory.store.complete s now key owner outcome window
      (window.Lasts now → ∃ ends, window.Runs now ends ∧ left.result = .done .applied ∧
        left.state.find? key = some { r.withOutcome outcome with expiresAt := ends }) ∧
      (¬window.Lasts now → left.result = .overflow)) ∧
    (∀ (keyPrefix : String) (s : Remote.State) (key : String) (owner : Token) (outcome : Outcome)
      (window : Span),
      ((Remote.store keyPrefix).complete s now key owner outcome window).result = .overflow ↔
        ¬window.Lasts now) ∧
    (∀ (shorter longer : Span) (sooner later : Instant), shorter.nanos ≤ longer.nanos →
      shorter.Runs now sooner → longer.Runs now later →
      (sooner ≤ later ↔ longer.nanos ≤ Span.longest.nanos ∨ Span.longest.nanos < shorter.nanos ∨
        shorter.nanos ≤ Span.century.nanos)) ∧
    ∀ few many : Nat, few ≤ many → many ≤ 7956864576000 →
      ∃ sooner later, (Span.ofSeconds few).Runs now sooner ∧
        (Span.ofSeconds many).Runs now later ∧ sooner ≤ later := by
  refine ⟨?lease, ?memory, ?server, ?order, ?years⟩
  case lease =>
    intro key owner lease
    constructor
    · intro lasts
      obtain ⟨ends, runs⟩ := lasts.exists_runs current
      exact ⟨⟨key, .pending, owner, none, none, now, ends⟩,
        pending?_eq_some_iff.2 ⟨rfl, runs⟩, rfl, runs⟩
    · rintro ⟨r, -, -, runs⟩
      exact runs.lasts current
  case memory =>
    intro s key owner outcome window r there left
    have left_eq : left = Memory.complete s now key owner outcome window := rfl
    rw [Memory.complete_of_some there] at left_eq
    constructor
    · intro lasts
      obtain ⟨ends, runs⟩ := lasts.exists_runs current
      rw [Span.runs_iff_deadline?.1 runs] at left_eq
      rw [left_eq]
      exact ⟨ends, runs, rfl, s.find?_insert_self key _⟩
    · intro short
      have endless : now.deadline? window = none :=
        Option.not_isSome_iff_eq_none.1 (mt (Span.inRange_iff_lasts current).1 short)
      rw [endless] at left_eq
      rw [left_eq]
      rfl
  case server =>
    intro keyPrefix s key owner outcome window
    rw [← Span.inRange_iff_lasts current]
    exact Remote.result_complete_eq_overflow_iff
  case order =>
    intro shorter longer sooner later le first second
    exact Span.le_deadline?_iff le first second
  case years =>
    intro few many le short
    exact Span.exists_runs_le current le short

/-! ### Windows at the edge -/

theorem current_epoch : Instant.epoch.Current := ⟨by decide, by decide, by decide⟩

/-- The last second of the calendar is the end of a lease that starts with the count, and there is
none a second later: neither for a lease nor for a cached outcome. The longest window ends before
one of thirty thousand years. -/
theorem deadline_exact_epoch :
    (∃ r, pending? .epoch "k" (.serial 1) (.ofSeconds 8210266876799) = some r ∧
      r.createdAt = .epoch ∧ (Span.ofSeconds 8210266876799).Runs .epoch r.expiresAt) ∧
    (¬∃ r, pending? .epoch "k" (.serial 1) (.ofSeconds 8210266876800) = some r ∧
      r.createdAt = .epoch ∧ (Span.ofSeconds 8210266876800).Runs .epoch r.expiresAt) ∧
    (Memory.store.complete (Memory.leased "k") .epoch "k" (.serial 1) ⟨200, .null⟩
      (.ofSeconds 8210266876800)).result = .overflow ∧
    ((Remote.store "guard").complete default .epoch "k" (.serial 1) ⟨200, .null⟩
      (.ofSeconds 8210266876800)).result = .overflow ∧
    ∃ sooner later, (Span.ofSeconds 1000000000000).Runs .epoch sooner ∧
      (Span.ofSeconds (Nat.pow 2 64 - 1)).Runs .epoch later ∧ ¬sooner ≤ later := by
  obtain ⟨lease, memory, server, order, -⟩ := deadline_exact current_epoch
  obtain ⟨held, broken, -⟩ := Memory.breaksOff_leased "k"
  have uncut : (Span.ofSeconds 1000000000000).Lasts .epoch := by decide
  have cut : (Span.ofSeconds (Nat.pow 2 64 - 1)).Lasts .epoch := by decide
  obtain ⟨sooner, first⟩ := uncut.exists_runs current_epoch
  obtain ⟨later, second⟩ := cut.exists_runs current_epoch
  refine ⟨(lease "k" _ _).1 (by decide), mt (lease "k" _ _).2 (by decide), ?_, ?_, sooner, later,
    first, second, ?_⟩
  · exact (memory _ "k" (.serial 1) ⟨200, .null⟩ _ held broken.completable).2 (by decide)
  · exact (server "guard" default "k" (.serial 1) ⟨200, .null⟩ _).2 (by decide)
  · exact mt (order _ _ sooner later (by decide) first second).1 (by decide)

/-- Not every lease that can be configured has an end, and a longer one can end before a shorter
one. -/
theorem not_deadline_ordered :
    (¬∀ (s : GuardSettings) (scope key : String) (owner : Token) (now : Instant),
      s.timeoutSecs < Nat.pow 2 64 → now.Current →
      (pending? now key owner (s.policyFor scope .returnCached).timeout).isSome) ∧
    ¬∀ (less more : GuardSettings) (scope : String) (now sooner later : Instant),
      less.timeoutSecs ≤ more.timeoutSecs → more.timeoutSecs < Nat.pow 2 64 → now.Current →
      now.deadline? (less.policyFor scope .returnCached).timeout = some sooner →
      now.deadline? (more.policyFor scope .returnCached).timeout = some later →
      sooner ≤ later := by
  constructor
  · intro always
    have ends := always { GuardSettings.standard with timeoutSecs := 9000000000000 } "payments" "k"
      (.serial 1) .epoch (by decide) current_epoch
    obtain ⟨r, fresh⟩ := Option.isSome_iff_exists.1 ends
    have lasts : ¬(Span.ofSeconds 9000000000000).Lasts .epoch := by decide
    have runs : (Span.ofSeconds 9000000000000).Runs .epoch r.expiresAt :=
      (pending?_eq_some_iff.1 fresh).2
    exact lasts (runs.lasts current_epoch)
  · intro ordered
    have uncut : (Span.ofSeconds 1000000000000).Lasts .epoch := by decide
    have cut : (Span.ofSeconds (Nat.pow 2 64 - 1)).Lasts .epoch := by decide
    obtain ⟨sooner, first⟩ := uncut.exists_runs current_epoch
    obtain ⟨later, second⟩ := cut.exists_runs current_epoch
    have le := ordered { GuardSettings.standard with timeoutSecs := 1000000000000 }
      { GuardSettings.standard with timeoutSecs := Nat.pow 2 64 - 1 } "payments" .epoch sooner later
      (by decide) (by decide) current_epoch (Span.runs_iff_deadline?.1 first)
      (Span.runs_iff_deadline?.1 second)
    exact absurd ((Span.le_deadline?_iff (by decide) first second).1 le) (by decide)

end Record

end Turnstile
