/-!
The Gregorian calendar, extended to all years, with days counted from the first of January 1970.
Main statements: the year of a day is the one whose first day is not after it and whose successor's
first day is after it (`firstDay_yearOf_le`, `lt_firstDay_yearOf`), so a date is found again from
its day.
-/

namespace Turnstile.Calendar

/-! ## Algorithm -/

/-- Whether a year has a 29th of February. -/
def isLeap (year : Int) : Bool := year % 4 = 0 && (year % 100 ≠ 0 || year % 400 = 0)

/-- The day number of the first of January of a year. -/
def firstDay (year : Int) : Int :=
  365 * (year - 1) + (year - 1) / 4 - (year - 1) / 100 + (year - 1) / 400 - 719162

/-- The number of days of a year. -/
def yearLength (year : Int) : Int := if isLeap year then 366 else 365

/-- The number of days of each month of a year, from January. -/
def monthLengths (leap : Bool) : List Nat :=
  [31, if leap then 29 else 28, 31, 30, 31, 30, 31, 31, 30, 31, 30, 31]

/-- The number of days of a month. -/
def monthLength (year : Int) (month : Nat) : Nat :=
  (monthLengths (isLeap year)).getD (month - 1) 0

/-- The number of days of a year before a month. -/
def daysBefore (leap : Bool) (month : Nat) : Nat :=
  ((monthLengths leap).take (month - 1)).foldl (· + ·) 0

/-- The day number of a date. -/
def dayOf (year : Int) (month day : Nat) : Int :=
  firstDay year + daysBefore (isLeap year) month + day - 1

/-- The year that a day lies in: an estimate by the mean length of a year, moved by one year where
that is needed. -/
def yearOf (day : Int) : Int :=
  let guess := (day + 719162) * 400 / 146097 + 1
  if day < firstDay guess then guess - 1
  else if firstDay (guess + 1) ≤ day then guess + 1
  else guess

/-- The month and the day of the month of a day of the year, counted from zero. -/
def monthDay : Nat → List Nat → Nat → Nat × Nat
  | month, [], rest => (month, rest + 1)
  | month, length :: lengths, rest =>
    if rest < length then (month, rest + 1) else monthDay (month + 1) lengths (rest - length)

/-- The date of a day number. -/
def dateOf (day : Int) : Int × Nat × Nat :=
  let year := yearOf day
  (year, monthDay 1 (monthLengths (isLeap year)) (day - firstDay year).toNat)

/-! ## Lemmas -/

theorem firstDay_succ (year : Int) : firstDay (year + 1) = firstDay year + yearLength year := by
  unfold firstDay yearLength isLeap
  simp only [Bool.and_eq_true, Bool.or_eq_true, decide_eq_true_eq]
  split <;> omega

theorem firstDay_yearOf_le (day : Int) : firstDay (yearOf day) ≤ day := by
  unfold yearOf
  simp only []
  split
  · next h => unfold firstDay at h ⊢; omega
  · split <;> omega

theorem lt_firstDay_yearOf (day : Int) : day < firstDay (yearOf day + 1) := by
  unfold yearOf
  simp only []
  split
  · next h => simpa using h
  · split
    · next h => unfold firstDay at h ⊢; omega
    · omega

end Turnstile.Calendar
