import Mathlib.Order.Lattice
import Turnstile.Time.Instant

/-!
Instants as a linear order, and validity windows that have an end. Main statement: the end of a
window that fits is its start and its length added up (`Fits.deadline?_eq`).
-/

namespace Turnstile

namespace Instant

instance : LinearOrder Instant where
  le a b := a.le b = true
  le_refl := le_refl
  le_trans _ _ _ := le_trans
  le_antisymm _ _ := le_antisymm
  le_total := le_total
  toDecidableLE a b := inferInstanceAs (Decidable (a.le b = true))

theorem le_eq_true_iff {a b : Instant} : a.le b = true ↔ a ≤ b := Iff.rfl

theorem le_eq_false_iff {a b : Instant} : a.le b = false ↔ b < a := by
  rw [← not_le, ← le_eq_true_iff, Bool.not_eq_true]

end Instant

/-- A window is in range at a time when it has an end, be it cut to a century before. -/
def Span.InRange (window : Span) (now : Instant) : Prop := (now.deadline? window).isSome

/-- A window fits at a time when it has an end without being cut. -/
def Span.Fits (window : Span) (now : Instant) : Prop :=
  window.nanos ≤ Span.longest.nanos ∧ (now.add? window).isSome

namespace Span

variable {window : Span} {now : Instant}

instance : Decidable (window.InRange now) :=
  inferInstanceAs (Decidable ((now.deadline? window).isSome = true))

instance : Decidable (window.Fits now) :=
  inferInstanceAs (Decidable (window.nanos ≤ Span.longest.nanos ∧ (now.add? window).isSome = true))

theorem InRange.exists_deadline? (h : window.InRange now) :
    ∃ ends, now.deadline? window = some ends :=
  Option.isSome_iff_exists.1 h

/-- The end of a window that fits is its start and its length added up. -/
theorem Fits.deadline?_eq (h : window.Fits now) : now.deadline? window = now.add? window := by
  rw [Instant.deadline?, Span.capped, if_neg (Nat.not_lt.2 h.1)]

theorem Fits.inRange (h : window.Fits now) : window.InRange now := by
  rw [InRange, h.deadline?_eq]
  exact h.2

end Span

end Turnstile
