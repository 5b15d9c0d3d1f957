/-!
Lengths of time, counted in nanoseconds.
-/

namespace Turnstile

/-- A length of time. -/
structure Span where
  nanos : Nat
deriving DecidableEq, Repr, Inhabited

namespace Span

/-- A whole number of seconds. -/
def ofSeconds (n : Nat) : Span := ⟨n * 1000000000⟩

/-- A whole number of milliseconds. -/
def ofMillis (n : Nat) : Span := ⟨n * 1000000⟩

/-- The whole seconds of a span. -/
def seconds (s : Span) : Nat := s.nanos / 1000000000

/-- The whole milliseconds of a span. -/
def millis (s : Span) : Nat := s.nanos / 1000000

/-- The whole milliseconds of a span, at most the largest number of 64 bits. -/
def cappedMillis (s : Span) : Nat := min s.millis (Nat.pow 2 64 - 1)

/-- The longest span that is added to a time as it is: the largest signed 64-bit number of
milliseconds. -/
def longest : Span := .ofMillis (Nat.pow 2 63 - 1)

/-- The span that stands in for a longer one: a hundred years of 365 days. -/
def century : Span := .ofSeconds (36500 * 86400)

/-- The span that is added to a time for a requested one. -/
def capped (s : Span) : Span := if longest.nanos < s.nanos then century else s

/-! ## Lemmas -/

@[simp]
theorem millis_ofMillis (n : Nat) : (ofMillis n).millis = n := by
  simp [millis, ofMillis]

end Span

end Turnstile
