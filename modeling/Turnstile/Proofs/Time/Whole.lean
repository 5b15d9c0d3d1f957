import Mathlib.Order.Bounds.Defs
import Turnstile.Proofs.Time.Order

/-!
Instants in whole milliseconds. Main statements: an instant on a clock of whole milliseconds is
named by its number (`Whole.ofMillis?_millis`), the order of such instants is that of their numbers
(`Whole.le_iff_millis`), and a window of whole milliseconds ends at another such instant
(`Whole.add?`); on any clock at most a millisecond is lost by rounding down (`millis_add?`), and
what is left is the last whole instant that is not later (`Leapless.isGreatest_floor`).
-/

namespace Turnstile

namespace Instant

/-- An instant between milliseconds is not whole, nor is one in a leap second. -/
def Whole (t : Instant) : Prop := t.nanos < 1000000000 ∧ t.nanos % 1000000 = 0

instance (t : Instant) : Decidable t.Whole :=
  inferInstanceAs (Decidable (t.nanos < 1000000000 ∧ t.nanos % 1000000 = 0))

variable {a b t : Instant}

theorem Whole.totalNanos_eq (h : t.Whole) : t.totalNanos = t.millis * 1000000 := by
  obtain ⟨_, whole⟩ := h
  simp only [totalNanos, millis]
  omega

/-- A whole instant is named by its milliseconds. -/
theorem Whole.ofMillis?_millis (h : t.Whole) : ofMillis? t.millis = some t := by
  obtain ⟨small, whole⟩ := h
  rw [ofMillis?, ofParts?_eq_some_iff]
  simp only [millis]
  omega

/-- Whole instants stand in the order of their milliseconds. -/
theorem Whole.le_iff_millis (ha : a.Whole) (hb : b.Whole) : a ≤ b ↔ a.millis ≤ b.millis := by
  obtain ⟨smallA, wholeA⟩ := ha
  obtain ⟨smallB, wholeB⟩ := hb
  rw [← le_eq_true_iff, le_iff]
  simp only [millis]
  omega

/-- The milliseconds of every instant are a number of 64 bits. -/
theorem millis_bounds (t : Instant) :
    -(Nat.pow 2 63 : Int) ≤ t.millis ∧ t.millis < (Nat.pow 2 63 : Int) := by
  have := t.nanos_lt
  have := t.first_le
  have := t.le_last
  simp only [millis, Nat.pow_eq]
  omega

theorem millis_eq (t : Instant) : t.millis = t.totalNanos / 1000000 := by
  simp only [millis, totalNanos]
  omega

/-- An instant that a number of milliseconds names has that number. -/
theorem millis_of_ofMillis? {ms : Int} (named : ofMillis? ms = some t) : t.millis = ms := by
  rw [ofMillis?, ofParts?_eq_some_iff] at named
  simp only [millis, named]
  omega

/-- A number of milliseconds names the whole instant of that number. -/
theorem ofMillis?_eq_some_iff {ms : Int} : ofMillis? ms = some t ↔ t.Whole ∧ t.millis = ms := by
  constructor
  · intro named
    refine ⟨?_, millis_of_ofMillis? named⟩
    rw [ofMillis?, ofParts?_eq_some_iff] at named
    unfold Whole
    omega
  · rintro ⟨whole, rfl⟩
    exact whole.ofMillis?_millis

/-- A number of milliseconds names an instant exactly if it is in the range of the calendar. -/
theorem exists_ofMillis?_iff {ms : Int} :
    (∃ t, ofMillis? ms = some t) ↔ -8334601228800000 ≤ ms ∧ ms ≤ 8210266876799999 := by
  unfold ofMillis? ofParts?
  constructor
  · rintro ⟨t, named⟩
    split at named
    · omega
    · cases named
  · rintro ⟨low, high⟩
    exact ⟨_, dif_pos ⟨by omega, by omega, by omega⟩⟩

/-- The instant a span later is later by the whole milliseconds of the span, or by one more. -/
theorem millis_add? {window : Span} (later : t.add? window = some b) :
    t.millis + window.millis ≤ b.millis ∧ b.millis ≤ t.millis + window.millis + 1 ∧
      (window.nanos % 1000000 = 0 → b.millis = t.millis + window.millis) := by
  rw [add?, ofParts?_eq_some_iff] at later
  obtain ⟨seconds, nanos⟩ := later
  have sum : b.totalNanos = t.totalNanos + window.nanos := by
    simp only [totalNanos] at *
    omega
  rw [millis_eq, millis_eq, sum, Span.millis]
  omega

/-- The instant whole milliseconds later is whole. -/
theorem Whole.add? {n : Nat} (h : t.Whole) (later : t.add? (.ofMillis n) = some b) :
    b.Whole ∧ b.millis = t.millis + n := by
  rw [Instant.add?, ofParts?_eq_some_iff, h.totalNanos_eq] at later
  obtain ⟨seconds, nanos⟩ := later
  simp only [Span.ofMillis] at seconds nanos
  simp only [Whole, millis] at *
  omega

/-! ## Rounding down -/

/-- An instant outside of leap seconds. -/
def Leapless (t : Instant) : Prop := t.nanos < 1000000000

instance (t : Instant) : Decidable t.Leapless :=
  inferInstanceAs (Decidable (t.nanos < 1000000000))

/-- An instant without its part of a millisecond. -/
def floor (t : Instant) : Instant where
  seconds := t.seconds
  nanos := t.nanos / 1000000 * 1000000
  nanos_lt := by
    have := t.nanos_lt
    omega
  first_le := t.first_le
  le_last := t.le_last

@[simp] theorem millis_floor (t : Instant) : t.floor.millis = t.millis := by
  simp only [millis, floor]
  omega

theorem Leapless.whole_floor (h : t.Leapless) : t.floor.Whole := by
  simp only [Leapless, Whole, floor] at *
  omega

/-- What is left by rounding down is the last whole instant that is not later. -/
theorem Leapless.isGreatest_floor (h : t.Leapless) :
    IsGreatest (fun w : Instant => w.Whole ∧ w ≤ t) t.floor := by
  refine ⟨⟨h.whole_floor, ?_⟩, ?_⟩
  · exact le_iff.2 (.inr ⟨rfl, Nat.div_mul_le_self _ _⟩)
  · rintro w ⟨⟨small, whole⟩, before⟩
    rcases le_iff.1 before with earlier | ⟨same, notLater⟩
    · exact le_iff.2 (.inl earlier)
    · exact le_iff.2 (.inr ⟨same, by simp only [floor]; omega⟩)

end Instant

end Turnstile
