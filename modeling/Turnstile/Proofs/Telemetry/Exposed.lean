import Turnstile.Telemetry.Effect

/-!
What is exposed about guarded calls. An exposed counter is read off the totals of all series by
adding up those of its metric, of one scope or of all. Main statements: an exposed counter says how
many measures count for it (`Exposed.reading_eq`), and what measures of a single scope count is read
of that scope and of no other (`Exposed.reading_of_scope`).
-/

namespace Turnstile

/-- A counter that is exposed for guarded calls: a metric, or the part of it with a certain
label. -/
inductive Exposed
  | requests
  | bypassRequests
  | bypasses
  | replays
  | inProgress
  | rejected
  | executions
  | failures
  | stale
deriving DecidableEq

/-- The scope that a measure is labelled with, if it is one of a guarded call. -/
def Measure.scope? : Measure → Option String
  | .request scope _ | .replay scope | .inProgress scope | .rejected scope | .execution scope _
  | .stale scope _ => some scope
  | .store _ _ _ | .http _ _ _ => none

namespace Exposed

/-! ## Series -/

/-- The metric of an exposed counter. -/
def metric : Exposed → String
  | .requests | .bypassRequests => "idempotency_requests_total"
  | .bypasses => "idempotency_bypass_total"
  | .replays => "idempotency_replays_total"
  | .inProgress => "idempotency_duplicates_in_progress_total"
  | .rejected => "idempotency_rejected_repeats_total"
  | .executions | .failures => "idempotency_executions_total"
  | .stale => "idempotency_stale_finalizations_total"

/-- The labels that a series must bear to be a part of an exposed counter. -/
def labels : Exposed → List (String × String)
  | .bypassRequests => [("bypass", "true")]
  | .failures => [("success", "false")]
  | _ => []

/-- Whether a series is a part of an exposed counter; if a scope is given, of that scope. -/
def covers (k : Exposed) (scope? : Option String) (s : Series) : Bool :=
  !s.isDuration && s.metric = k.metric && k.labels.all (s.labels.contains ·) &&
    scope?.all fun scope => s.labels.contains ("scope", scope)

/-- The totals of the series that are a part of an exposed counter, added up. -/
def sum (k : Exposed) (scope? : Option String) (totals : List (Series × Nat)) : Nat :=
  totals.foldr (fun entry n => (if k.covers scope? entry.1 then entry.2 else 0) + n) 0

/-- The value of an exposed counter after some measures. -/
def reading (k : Exposed) (scope? : Option String) (measures : List Measure) : Nat :=
  k.sum scope? (Measure.totals measures)

/-! ## Measures -/

/-- Whether a measure counts for an exposed counter. -/
def counts (k : Exposed) : Measure → Bool
  | .request _ bypass => k = .requests || bypass && (k = .bypassRequests || k = .bypasses)
  | .replay _ => k = .replays
  | .inProgress _ => k = .inProgress
  | .rejected _ => k = .rejected
  | .execution _ success => k = .executions || !success && k = .failures
  | .stale _ _ => k = .stale
  | .store _ _ _ | .http _ _ _ => false

/-- Whether a measure counts for an exposed counter; if a scope is given, of that scope. -/
def countsOf (k : Exposed) (scope? : Option String) (m : Measure) : Bool :=
  k.counts m && scope?.all fun scope => m.scope? = some scope

/-! ## Lemmas -/

section

variable (k : Exposed) (metric : String) (labels : List (String × String))

theorem covers_counter : k.covers none (.counter metric labels) =
    (metric = k.metric && k.labels.all (labels.contains ·)) := by
  simp only [covers, Series.counter, Bool.not_false, Bool.true_and, Option.all_none, Bool.and_true]
  rfl

theorem covers_duration (scope? : Option String) :
    k.covers scope? (.duration metric labels) = false := rfl

end

section

variable (k : Exposed) (scope? : Option String)

theorem countP_series_none (m : Measure) :
    m.series.countP (k.covers none) = if k.counts m then 1 else 0 := by
  cases m with
  | request scope bypass =>
    cases bypass <;> cases k <;>
      simp [Measure.series, covers_counter, counts, metric, labels, Measure.flag]
  | execution scope success =>
    cases success <;> cases k <;>
      simp [Measure.series, covers_counter, covers_duration, counts, metric, labels, Measure.flag]
  | _ =>
    cases k <;> simp [Measure.series, covers_counter, covers_duration, counts, metric, labels]

/-- The series of a measure bear its scope and no other. -/
theorem mem_labels_iff (m : Measure) (scope : String) :
    ∀ s ∈ m.series, ("scope", scope) ∈ s.labels ↔ m.scope? = some scope := by
  cases m with
  | request scope' bypass =>
    cases bypass <;> simp [Measure.series, Measure.scope?, Series.counter, eq_comm]
  | _ => simp [Measure.series, Measure.scope?, Series.counter, Series.duration, eq_comm]

/-- A measure adds one to a single series of each exposed counter that it counts for. -/
theorem countP_series (m : Measure) :
    m.series.countP (k.covers scope?) = if k.countsOf scope? m then 1 else 0 := by
  have split : ∀ s ∈ m.series, k.covers scope? s = true ↔
      (k.covers none s && scope?.all fun scope => m.scope? = some scope) = true := by
    intro s hs
    cases scope? with
    | none => simp [covers]
    | some scope => simp [covers, mem_labels_iff m scope s hs]
  rw [List.countP_congr split, countsOf]
  cases scope?.all fun scope => m.scope? = some scope <;> simp [countP_series_none]

/-! ### Readings -/

theorem sum_add (totals : List (Series × Nat)) (s : Series) :
    k.sum scope? (Measure.totals.add totals s) =
      k.sum scope? totals + if k.covers scope? s then 1 else 0 := by
  induction totals with
  | nil => simp [Measure.totals.add, sum]
  | cons entry rest ih =>
    obtain ⟨t, n⟩ := entry
    simp only [sum] at ih
    by_cases same : t = s
    · subst same
      simp only [Measure.totals.add, if_true, sum, List.foldr_cons]
      split <;> omega
    · simp only [Measure.totals.add, if_neg same, sum, List.foldr_cons, ih]
      omega

theorem sum_foldl_add (series : List Series) (totals : List (Series × Nat)) :
    k.sum scope? (series.foldl Measure.totals.add totals) =
      k.sum scope? totals + series.countP (k.covers scope?) := by
  induction series generalizing totals with
  | nil => rfl
  | cons s series ih =>
    rw [List.foldl_cons, ih, sum_add, List.countP_cons]
    omega

/-- An exposed counter says how many measures count for it. -/
theorem reading_eq (measures : List Measure) :
    k.reading scope? measures = measures.countP (k.countsOf scope?) := by
  rw [reading, Measure.totals, sum_foldl_add]
  show 0 + _ = _
  induction measures with
  | nil => rfl
  | cons m measures ih =>
    rw [List.flatMap_cons, List.countP_append, countP_series, List.countP_cons]
    omega

theorem reading_append (measures more : List Measure) :
    k.reading scope? (measures ++ more) =
      k.reading scope? measures + k.reading scope? more := by
  simp only [reading_eq, List.countP_append]

/-- Measures without a scope count for nothing. -/
theorem reading_of_no_scope {measures : List Measure} (unscoped : ∀ m ∈ measures, m.scope? = none) :
    k.reading scope? measures = 0 := by
  have uncounted : ∀ m : Measure, m.scope? = none → k.counts m = false := by
    intro m none
    cases m <;> simp_all [Measure.scope?, counts]
  rw [reading_eq, List.countP_eq_zero]
  intro m hm
  simp [countsOf, uncounted m (unscoped m hm)]

/-- What measures of a single scope count is read of that scope and of no other. -/
theorem reading_of_scope {measures : List Measure} {scope : String}
    (single : ∀ m ∈ measures, m.scope? = some scope) :
    k.reading scope? measures =
      if scope?.all (· = scope) then k.reading none measures else 0 := by
  have counted : ∀ m ∈ measures, k.countsOf scope? m = true ↔
      (k.countsOf none m && scope?.all (· = scope)) = true := by
    intro m hm
    cases scope? with
    | none => simp [countsOf]
    | some other => simp [countsOf, single m hm, @eq_comm _ other]
  rw [reading_eq, reading_eq, List.countP_congr counted]
  cases scope?.all (· = scope) <;> simp

end

end Exposed

end Turnstile
