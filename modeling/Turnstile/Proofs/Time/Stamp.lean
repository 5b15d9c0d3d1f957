import Turnstile.Proofs.Text.Numeral
import Turnstile.Proofs.Time.Calendar
import Turnstile.Proofs.Time.Whole
import Turnstile.Time.Stamp

/-!
Time stamps read back. Every part of a stamp is read up to the mark behind it, so one equation per
part says what its reader leaves. Main statement: the stamp of a time outside of leap seconds, of
any year and to the nanosecond, is read as that time (`read?_write`).
-/

namespace Turnstile.Stamp

variable {part rest : List Char}

/-- A reader goes on with what the one before it left. -/
theorem run_then {α β : Type} {first : Reader α} {next : α → Reader β} {a : α} {cs rest : List Char}
    (h : first.run cs = some (a, rest)) : (first >>= next).run cs = (next a).run rest := by
  rw [StateT.run_bind, h]
  rfl

/-! ## Digits and marks -/

/-- Digits are read up to the greatest number of them, or up to what is no digit. -/
theorem run_digits {most : Nat} (started : part ≠ []) (fits : part.length ≤ most)
    (digit : ∀ c ∈ part, Text.isDigit c = true)
    (ends : part.length = most ∨ ∀ c ∈ rest.head?, Text.isDigit c = false) :
    (digits most).run (part ++ rest) = some (part, rest) := by
  have front : ((part ++ rest).take most).takeWhile Text.isDigit = part := by
    rw [List.take_append, List.take_of_length_le fits, List.takeWhile_append_of_pos digit]
    rcases ends with full | ends
    · simp [full]
    · cases rest with
      | nil => simp
      | cons c rest =>
        cases most - part.length with
        | zero => simp
        | succ n => simp [ends c rfl]
  have nonempty : part.isEmpty = false := List.isEmpty_eq_false_iff.2 started
  rw [digits, run_then (StateT.run_get _)]
  simp only [front, nonempty, Bool.false_eq_true, if_false]
  rw [run_then (StateT.run_set _ _), List.drop_left]
  rfl

theorem run_skipBlanks {c : Char} (h : Text.isBlank c = false) (rest : List Char) :
    skipBlanks.run (c :: rest) = some ((), c :: rest) := by
  simp [skipBlanks, h]

theorem run_skipBlanks_nil : skipBlanks.run [] = some ((), []) := rfl

/-- Two digits are read as their number. -/
theorem run_number {n : Nat} (small : n < 100) (rest : List Char) :
    (number 2).run (Text.paddedDigits 2 n ++ rest) = some (n, rest) := by
  have started : Text.paddedDigits 2 n ≠ [] := List.ne_nil_of_length_pos (by simp)
  have digit : ∀ c ∈ Text.paddedDigits 2 n, Text.isDigit c = true :=
    fun _ => Text.isDigit_of_mem_paddedDigits
  have read : (digits 2).run (Text.paddedDigits 2 n ++ rest) = _ :=
    run_digits started (by simp) digit (.inl (by simp))
  have value : Text.digitsValue (Text.paddedDigits 2 n) = n := Text.digitsValue_paddedDigits small
  obtain ⟨c, cs, same⟩ := List.exists_cons_of_ne_nil started
  have blank := Text.isBlank_of_isDigit (digit c (by simp [same]))
  rw [same, List.cons_append] at read ⊢
  rw [same] at value
  rw [number, run_then (run_skipBlanks blank _), run_then read, value]
  rfl

theorem run_oneOf {c : Char} {choices : List Char} (h : choices.contains c = true)
    (rest : List Char) : (oneOf choices).run (c :: rest) = some ((), rest) := by
  simp [oneOf, next] at h ⊢
  simp [h]

theorem run_mark {c : Char} (blank : Text.isBlank c = false) (rest : List Char) :
    (mark c).run (c :: rest) = some ((), rest) := by
  rw [mark, run_then (run_skipBlanks blank rest)]
  exact run_oneOf (by simp) rest

/-! ## Years -/

/-- A year behind a minus sign may have any number of digits. -/
theorem run_year_minus (rest : List Char) :
    year.run ('-' :: rest) =
      ((digits rest.length).run rest).map fun p => (-(Text.digitsValue p.1 : Int), p.2) := by
  rw [year, run_then (run_skipBlanks rfl _)]
  show ((digits rest.length).run rest).bind _ = _
  cases (digits rest.length).run rest <;> rfl

/-- So may one behind a plus sign. -/
theorem run_year_plus (rest : List Char) :
    year.run ('+' :: rest) =
      ((digits rest.length).run rest).map fun p => ((Text.digitsValue p.1 : Int), p.2) := by
  rw [year, run_then (run_skipBlanks rfl _)]
  show ((digits rest.length).run rest).bind _ = _
  cases (digits rest.length).run rest <;> rfl

/-- A year without a sign has at most four digits. -/
theorem run_year_digit {c : Char} (h : Text.isDigit c = true) (rest : List Char) :
    year.run (c :: rest) =
      ((digits 4).run (c :: rest)).map fun p => ((Text.digitsValue p.1 : Int), p.2) := by
  have minus := Text.ne_of_isDigit h (d := '-') rfl
  have plus := Text.ne_of_isDigit h (d := '+') rfl
  rw [year, run_then (run_skipBlanks (Text.isBlank_of_isDigit h) _), run_then (StateT.run_get _)]
  split
  · rename_i same
    exact absurd (List.cons.inj same).1 minus
  · rename_i same
    exact absurd (List.cons.inj same).1 plus
  · rw [StateT.run_bind]
    cases (digits 4).run (c :: rest) <;> rfl

/-- A year is read as itself, with its sign if it has one. -/
theorem run_year (y : Int) (rest : List Char) :
    year.run (yearText y ++ '-' :: rest) = some (y, '-' :: rest) := by
  let part := Text.paddedDigits (max 4 (Text.digitCount y.natAbs)) y.natAbs
  have started : part ≠ [] := List.ne_nil_of_length_pos (by simp [part])
  have digit : ∀ c ∈ part, Text.isDigit c = true := fun _ => Text.isDigit_of_mem_paddedDigits
  have value : Text.digitsValue part = y.natAbs := by
    apply Text.digitsValue_paddedDigits
    calc y.natAbs < Nat.pow 10 (Text.digitCount y.natAbs) := Text.lt_pow_digitCount _
      _ ≤ Nat.pow 10 (max 4 (Text.digitCount y.natAbs)) :=
        Nat.pow_le_pow_right (by decide) (Nat.le_max_right _ _)
  have read : ∀ most, part.length ≤ most →
      (digits most).run (part ++ '-' :: rest) = some (part, '-' :: rest) := by
    intro most fits
    exact run_digits started fits digit (.inr (by simp; rfl))
  unfold yearText
  split
  · rename_i plain
    show year.run (part ++ '-' :: rest) = _
    have four : part.length ≤ 4 := by
      rw [Text.length_paddedDigits]
      exact Nat.max_le.2 ⟨Nat.le_refl 4, Text.digitCount_le (by decide) (by rw [Nat.pow_eq]; omega)⟩
    have text := read 4 four
    obtain ⟨c, cs, same⟩ := List.exists_cons_of_ne_nil started
    rw [same, List.cons_append] at text ⊢
    rw [run_year_digit (digit c (by simp [same])), text, ← same, Option.map_some, value]
    exact congrArg some (Prod.ext (by simp only []; omega) rfl)
  · split
    · show year.run ('-' :: (part ++ '-' :: rest)) = _
      rw [run_year_minus, read _ (by simp), Option.map_some, value]
      exact congrArg some (Prod.ext (by simp only []; omega) rfl)
    · show year.run ('+' :: (part ++ '-' :: rest)) = _
      rw [run_year_plus, read _ (by simp), Option.map_some, value]
      exact congrArg some (Prod.ext (by simp only []; omega) rfl)

/-! ## Fractions and offsets -/

/-- Digits behind a point are read as that part of a second. -/
theorem run_fraction_digits {width n : Nat} (started : 0 < width) (fits : width ≤ 9)
    (small : n < Nat.pow 10 width) (rest : List Char) :
    fraction.run ('.' :: Text.paddedDigits width n ++ 'Z' :: rest) =
      some (n * Nat.pow 10 (9 - width), 'Z' :: rest) := by
  have read : (digits 9).run (Text.paddedDigits width n ++ 'Z' :: rest) = _ :=
    run_digits (List.ne_nil_of_length_pos (by simpa using started)) (by simpa using fits)
      (fun _ => Text.isDigit_of_mem_paddedDigits) (.inr (by simp; rfl))
  have z : Text.isDigit 'Z' = false := rfl
  simp [fraction, read, Text.digitsValue_paddedDigits small, z]

/-- A fraction is read to the nanosecond, however many digits it has. -/
theorem run_fraction {nanos : Nat} (small : nanos < 1000000000) (rest : List Char) :
    fraction.run (fractionText nanos ++ 'Z' :: rest) = some (nanos, 'Z' :: rest) := by
  unfold fractionText
  split
  · rename_i zero
    rw [zero]
    rfl
  · split
    · rw [run_fraction_digits (by decide) (by decide) (by rw [Nat.pow_eq]; omega)]
      exact congrArg some (Prod.ext (by simp only [Nat.pow_eq]; omega) rfl)
    · split
      · rw [run_fraction_digits (by decide) (by decide) (by rw [Nat.pow_eq]; omega)]
        exact congrArg some (Prod.ext (by simp only [Nat.pow_eq]; omega) rfl)
      · rw [run_fraction_digits (by decide) (by decide) (by rw [Nat.pow_eq]; omega)]
        exact congrArg some (Prod.ext (by simp only [Nat.pow_eq]; omega) rfl)

theorem run_offset (rest : List Char) : offset.run ('Z' :: rest) = some (0, rest) := by
  rw [offset, run_then (run_skipBlanks rfl _)]
  rfl

/-! ## Whole stamps -/

/-- A time stamp is read as the time that was written. -/
theorem read?_write {t : Instant} (leapless : t.Leapless) : read? (write t) = some t := by
  obtain ⟨month, day, date, valid, same⟩ := Calendar.dateOf_spec (t.seconds / 86400)
  have long := Calendar.monthLength_le (Calendar.yearOf (t.seconds / 86400)) month
  unfold Instant.Leapless at leapless
  have leap : t.nanos / 1000000000 = 0 := by omega
  have nanos : t.nanos % 1000000000 = t.nanos := by omega
  have inDay : ((t.seconds % 86400).toNat : Int) = t.seconds % 86400 := by omega
  generalize Calendar.yearOf (t.seconds / 86400) = y at *
  generalize time : (t.seconds % 86400).toNat = seconds at *
  have text : chars t = yearText y ++ '-' ::
      (Text.paddedDigits 2 month ++ '-' :: (Text.paddedDigits 2 day ++ 'T' ::
      (Text.paddedDigits 2 (seconds / 3600) ++ ':' :: (Text.paddedDigits 2 (seconds / 60 % 60) ++
      ':' :: (Text.paddedDigits 2 (seconds % 60) ++ (fractionText t.nanos ++ 'Z' :: [])))))) := by
    simp [chars, date, time, leap, nanos]
  have clock : seconds / 3600 < 24 ∧ seconds / 60 % 60 < 60 ∧ seconds % 60 ≤ 60 := by omega
  have second : seconds % 60 ≠ 60 := by omega
  have total : Calendar.dayOf y month day * 86400 + (seconds / 3600 : Nat) * 3600 +
      (seconds / 60 % 60 : Nat) * 60 + (seconds % 60 : Nat) = t.seconds := by
    omega
  have made := Instant.ofParts?_eq_some_iff.2 (show t.seconds = _ ∧ t.nanos = _ from ⟨rfl, rfl⟩)
  rw [read?, write, String.toList_ofList, text, stamp]
  rw [run_then (run_year y _), run_then (run_mark rfl _), run_then (run_number (by omega) _),
    run_then (run_mark rfl _), run_then (run_number (by omega) _), run_then (run_oneOf rfl _),
    run_then (run_number (by omega) _), run_then (run_mark rfl _),
    run_then (run_number (by omega) _), run_then (run_mark rfl _),
    run_then (run_number (by omega) _), run_then (run_fraction leapless _),
    run_then (run_offset _), run_then run_skipBlanks_nil, run_then (StateT.run_get _)]
  simp only [List.isEmpty_nil, if_true, if_pos valid, if_pos clock, if_neg second, Nat.sub_zero,
    Nat.zero_mul, Nat.add_zero, Int.sub_zero, total, made]
  rfl

end Turnstile.Stamp
