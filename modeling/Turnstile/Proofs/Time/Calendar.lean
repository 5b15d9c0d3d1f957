import Turnstile.Time.Calendar

/-!
Dates and the days they name. Main statement: the date of a day is a date of the calendar, and it
names that day (`dateOf_spec`).
-/

namespace Turnstile.Calendar

/-- A day of the year falls into the month whose days it is among. The days before the months of the
list are `start`. -/
theorem monthDay_spec {lengths : List Nat} {month rest start : Nat}
    (within : start + rest < lengths.foldl (· + ·) start) :
    ∃ i day length, monthDay month lengths rest = (month + i, day + 1) ∧
      lengths[i]? = some length ∧ day < length ∧
      (lengths.take i).foldl (· + ·) start + day = start + rest := by
  induction lengths generalizing month rest start with
  | nil => exact absurd within (by simp)
  | cons length lengths ih =>
    rw [monthDay]
    split
    · rename_i here
      exact ⟨0, rest, length, rfl, rfl, here, rfl⟩
    · rename_i later
      rw [List.foldl_cons] at within
      obtain ⟨i, day, last, found, listed, inside, sum⟩ :=
        @ih (month + 1) (rest - length) (start + length) (by omega)
      refine ⟨i + 1, day, last, ?_, listed, inside, ?_⟩
      · rw [found, Nat.add_assoc, Nat.add_comm 1 i]
      · rw [List.take_succ_cons, List.foldl_cons, sum]
        omega

theorem length_monthLengths (leap : Bool) : (monthLengths leap).length = 12 := rfl

/-- The months of a year make up the year. -/
theorem foldl_monthLengths (year : Int) :
    ((monthLengths (isLeap year)).foldl (· + ·) 0 : Nat) = yearLength year := by
  unfold yearLength
  cases isLeap year <;> rfl

theorem monthLength_le (year : Int) (month : Nat) : monthLength year month ≤ 31 := by
  unfold monthLength
  generalize month - 1 = i
  by_cases listed : i < 12
  · have all : ∀ leap : Bool, ∀ i : Fin 12, (monthLengths leap).getD i 0 ≤ 31 := by decide
    exact all _ ⟨i, listed⟩
  · have none : (monthLengths (isLeap year)).length ≤ i := Nat.not_lt.1 listed
    rw [List.getD_eq_getElem?_getD, List.getElem?_eq_none none]
    decide

/-- The date of a day is a date of the calendar, and it names the day. -/
theorem dateOf_spec (day : Int) :
    ∃ month dayOfMonth, dateOf day = (yearOf day, month, dayOfMonth) ∧
      (1 ≤ month ∧ month ≤ 12 ∧ 1 ≤ dayOfMonth ∧ dayOfMonth ≤ monthLength (yearOf day) month) ∧
      dayOf (yearOf day) month dayOfMonth = day := by
  have notBefore := firstDay_yearOf_le day
  have before := lt_firstDay_yearOf day
  rw [firstDay_succ, ← foldl_monthLengths] at before
  obtain ⟨i, rest, length, found, listed, inside, sum⟩ :=
    @monthDay_spec (monthLengths (isLeap (yearOf day))) 1 (day - firstDay (yearOf day)).toNat 0
      (by omega)
  have twelve := (List.getElem?_eq_some_iff.1 listed).1
  rw [length_monthLengths] at twelve
  refine ⟨1 + i, rest + 1, by rw [dateOf, found], ⟨by omega, by omega, by omega, ?_⟩, ?_⟩
  · rw [monthLength, Nat.add_sub_cancel_left, List.getD_eq_getElem?_getD, listed]
    exact inside
  · rw [dayOf, daysBefore, Nat.add_sub_cancel_left]
    omega

end Turnstile.Calendar
