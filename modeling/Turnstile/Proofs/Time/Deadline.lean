import Turnstile.Proofs.Time.Whole

/-!
Where validity windows end. Main statements: at a current time a window has an end exactly if it
ends within the calendar or is so long that a century stands in for it (`Span.inRange_iff_lasts`),
and of two windows the longer one does not end before the other, unless a century stands in for it
alone and the other is longer than a century (`Span.le_deadline?_iff`).
-/

namespace Turnstile

namespace Instant

/-- The nanoseconds from the start of the count to the end of the calendar. -/
def horizon : Nat := 8210266876800 * 1000000000

/-- The times that a clock shows from 1970 to 9999; it shows no leap seconds. -/
structure Current (t : Instant) : Prop where
  notBefore : 0 ≤ t.seconds
  notAfter : t.seconds < 253402300800
  leapless : t.Leapless

variable {a b now t : Instant} {span : Span}

theorem Current.totalNanos_lt (current : t.Current) :
    t.totalNanos < 253402300800 * 1000000000 := by
  have before := current.notAfter
  have leapless := current.leapless
  unfold Leapless at leapless
  unfold totalNanos
  omega

/-- Outside of leap seconds instants stand in the order of their nanoseconds. -/
theorem Leapless.le_iff_totalNanos (ha : a.Leapless) (hb : b.Leapless) :
    a ≤ b ↔ a.totalNanos ≤ b.totalNanos := by
  rw [← le_eq_true_iff, le_iff]
  unfold Leapless at ha hb
  unfold totalNanos
  omega

theorem add?_eq_some_iff :
    now.add? span = some t ↔ t.Leapless ∧ t.totalNanos = now.totalNanos + span.nanos := by
  unfold add?
  rw [ofParts?_eq_some_iff]
  unfold Leapless totalNanos
  omega

/-- A span may be added as long as the sum is within the calendar. -/
theorem isSome_add?_iff (notBefore : 0 ≤ now.seconds) :
    (now.add? span).isSome ↔ now.totalNanos + span.nanos < horizon := by
  unfold horizon
  constructor
  · intro some
    obtain ⟨t, sum⟩ := Option.isSome_iff_exists.1 some
    obtain ⟨leapless, total⟩ := add?_eq_some_iff.1 sum
    have := t.le_last
    unfold Leapless at leapless
    unfold totalNanos at total ⊢
    omega
  · intro within
    have inRange : (now.totalNanos + span.nanos) % 1000000000 < 2000000000 ∧
        -8334601228800 ≤ (now.totalNanos + span.nanos) / 1000000000 ∧
        (now.totalNanos + span.nanos) / 1000000000 ≤ 8210266876799 := by
      unfold totalNanos at within ⊢
      omega
    unfold add? ofParts?
    rw [dif_pos (by omega)]
    rfl

theorem deadline?_eq_some_iff :
    now.deadline? span = some t ↔
      t.Leapless ∧ t.totalNanos = now.totalNanos + span.capped.nanos := add?_eq_some_iff

end Instant

namespace Span

variable {now : Instant} {window shorter longer : Span}

@[simp]
theorem nanos_ofSeconds (n : Nat) : (ofSeconds n).nanos = n * 1000000000 := rfl

theorem nanos_longest : longest.nanos = 9223372036854775807000000 := rfl

theorem nanos_century : century.nanos = 3153600000000000000 := rfl

/-- A window lasts at a time when its end is within the calendar, or when it is so long that it is
cut to a century. -/
def Lasts (window : Span) (now : Instant) : Prop :=
  longest.nanos < window.nanos ∨ now.totalNanos + window.nanos < Instant.horizon

instance : Decidable (window.Lasts now) :=
  inferInstanceAs (Decidable (longest.nanos < window.nanos ∨
    now.totalNanos + window.nanos < Instant.horizon))

/-- A window runs from one time to another: as long as it was asked for, or a century if that is
longer than a time can be moved. -/
def Runs (window : Span) (now ends : Instant) : Prop :=
  ends.Leapless ∧ ends.totalNanos =
    now.totalNanos + (if window.nanos ≤ longest.nanos then window.nanos else century.nanos : Nat)

theorem capped_nanos (window : Span) :
    window.capped.nanos = if window.nanos ≤ longest.nanos then window.nanos else century.nanos := by
  unfold capped
  by_cases long : longest.nanos < window.nanos
  · rw [if_pos long, if_neg (Nat.not_le.2 long)]
  · rw [if_neg long, if_pos (Nat.not_lt.1 long)]

theorem runs_iff_deadline? {ends : Instant} :
    window.Runs now ends ↔ now.deadline? window = some ends := by
  rw [Instant.deadline?_eq_some_iff, capped_nanos]
  rfl

/-- At a current time exactly the windows that last have an end. -/
theorem inRange_iff_lasts (current : now.Current) : window.InRange now ↔ window.Lasts now := by
  unfold InRange Instant.deadline?
  rw [Instant.isSome_add?_iff current.notBefore, capped_nanos]
  -- a century later is still within the calendar
  have later : now.totalNanos + century.nanos < Instant.horizon := by
    have total := current.totalNanos_lt
    rw [nanos_century]
    unfold Instant.horizon
    omega
  unfold Lasts
  split <;> omega

theorem Lasts.exists_runs (current : now.Current) (lasts : window.Lasts now) :
    ∃ ends, window.Runs now ends := by
  obtain ⟨ends, limit⟩ := ((inRange_iff_lasts current).2 lasts).exists_deadline?
  exact ⟨ends, runs_iff_deadline?.2 limit⟩

theorem Runs.lasts {ends : Instant} (runs : window.Runs now ends) (current : now.Current) :
    window.Lasts now := by
  apply (inRange_iff_lasts current).1
  rw [InRange, runs_iff_deadline?.1 runs]
  rfl

/-- A longer window that is cut ends before a shorter one that is not, if that is longer than a
century. All other windows end in the order of their lengths. -/
theorem le_deadline?_iff {sooner later : Instant} (le : shorter.nanos ≤ longer.nanos)
    (first : shorter.Runs now sooner) (second : longer.Runs now later) :
    sooner ≤ later ↔ longer.nanos ≤ longest.nanos ∨ longest.nanos < shorter.nanos ∨
      shorter.nanos ≤ century.nanos := by
  obtain ⟨leaplessSooner, totalSooner⟩ := first
  obtain ⟨leaplessLater, totalLater⟩ := second
  rw [leaplessSooner.le_iff_totalNanos leaplessLater, totalSooner, totalLater]
  rw [nanos_century, nanos_longest]
  split <;> split <;> omega

end Span

end Turnstile
