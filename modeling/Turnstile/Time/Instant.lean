import Turnstile.Time.Span

/-!
Points in time, in seconds since the first of January 1970 and nanoseconds. A second may last two
thousand million nanoseconds: the second thousand million is a leap second. The years reach from
-262143 to 262142. Main statements: instants are in a total order (`le_refl`, `le_trans`,
`le_total`, `le_antisymm`).
-/

namespace Turnstile

/-- A point in time. -/
structure Instant where
  seconds : Int
  nanos : Nat
  nanos_lt : nanos < 2000000000
  first_le : -8334601228800 ≤ seconds
  le_last : seconds ≤ 8210266876799
deriving DecidableEq, Repr

namespace Instant

/-! ## Algorithm -/

/-- The instant with the given parts, if they are in range. -/
def ofParts? (seconds : Int) (nanos : Nat) : Option Instant :=
  if h : nanos < 2000000000 ∧ -8334601228800 ≤ seconds ∧ seconds ≤ 8210266876799 then
    some ⟨seconds, nanos, h.1, h.2.1, h.2.2⟩
  else none

/-- The start of the count. -/
def epoch : Instant := ⟨0, 0, by decide, by decide, by decide⟩

instance : Inhabited Instant := ⟨epoch⟩

/-- The instant a number of milliseconds after the start of the count. -/
def ofMillis? (ms : Int) : Option Instant :=
  ofParts? (ms / 1000) ((ms % 1000).toNat * 1000000)

/-- The milliseconds since the start of the count, rounded down. -/
def millis (t : Instant) : Int := t.seconds * 1000 + (t.nanos / 1000000 : Nat)

/-- The nanoseconds since the start of the count. -/
def totalNanos (t : Instant) : Int := t.seconds * 1000000000 + t.nanos

/-- Whether one instant is not after another. -/
def le (a b : Instant) : Bool :=
  a.seconds < b.seconds || (a.seconds = b.seconds && a.nanos ≤ b.nanos)

/-- The instant a span later, if it is in range. -/
def add? (t : Instant) (s : Span) : Option Instant :=
  let nanos := t.totalNanos + s.nanos
  ofParts? (nanos / 1000000000) (nanos % 1000000000).toNat

/-- The end of a validity window that starts now: a span that is too long counts as a century.
`none` when the end is out of range. -/
def deadline? (now : Instant) (window : Span) : Option Instant := now.add? window.capped

/-! ## Lemmas -/

theorem ofParts?_eq_some_iff {seconds : Int} {nanos : Nat} {t : Instant} :
    ofParts? seconds nanos = some t ↔ t.seconds = seconds ∧ t.nanos = nanos := by
  constructor
  · intro h
    unfold ofParts? at h
    split at h
    · cases h
      exact ⟨rfl, rfl⟩
    · cases h
  · rintro ⟨rfl, rfl⟩
    simp [ofParts?, t.nanos_lt, t.first_le, t.le_last]

theorem le_iff {a b : Instant} :
    a.le b = true ↔ a.seconds < b.seconds ∨ a.seconds = b.seconds ∧ a.nanos ≤ b.nanos := by
  simp [le]

theorem le_refl (a : Instant) : a.le a = true := by
  simp [le_iff]

theorem le_trans {a b c : Instant} (hab : a.le b = true) (hbc : b.le c = true) :
    a.le c = true := by
  rw [le_iff] at *
  omega

theorem le_total (a b : Instant) : a.le b = true ∨ b.le a = true := by
  simp only [le_iff]
  omega

theorem le_antisymm {a b : Instant} (hab : a.le b = true) (hba : b.le a = true) : a = b := by
  rw [le_iff] at hab hba
  have sameSecond : a.seconds = b.seconds := by omega
  have sameNanos : a.nanos = b.nanos := by omega
  cases a
  cases b
  simp_all

end Instant

end Turnstile
