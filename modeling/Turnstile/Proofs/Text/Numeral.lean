import Turnstile.Text.Blank
import Turnstile.Text.Numeral

/-!
Numerals read back. Main statements: the numeral of a natural number below a bound
(`readBelow?_writeNat`) and that of an integer of so many bits (`readSigned?_writeInt`) are read as
the number that was written; a fixed number of digits stands for the number that ends with them
(`digitsFrom_paddedDigits`).
-/

namespace Turnstile.Text

/-- The first digit of a number other than zero is not zero. -/
theorem head?_decimalDigits_ne_zero {n : Nat} (h : n ≠ 0) : (decimalDigits n).head? ≠ some '0' := by
  induction n using Nat.strongRecOn with
  | _ n ih =>
    rw [decimalDigits]
    split
    · next small =>
      have all : ∀ m : Fin 10, m.val ≠ 0 → digitChar m.val ≠ '0' := by decide
      simpa using all ⟨n, small⟩ h
    · next large =>
      obtain ⟨c, rest, digits⟩ := List.exists_cons_of_ne_nil (decimalDigits_ne_nil (n / 10))
      have first := ih (n / 10) (by omega) (by omega)
      rw [digits] at first ⊢
      exact first

/-- A number of several digits does not start with zero. -/
theorem length_decimalDigits_of_head? {n : Nat} (h : (decimalDigits n).head? = some '0') :
    (decimalDigits n).length = 1 := by
  by_cases zero : n = 0
  · rw [zero, decimalDigits]
    rfl
  · exact absurd h (head?_decimalDigits_ne_zero zero)

theorem isDigit_of_mem_decimalDigits {n : Nat} {c : Char} (h : c ∈ decimalDigits n) :
    isDigit c = true :=
  List.all_eq_true.1 (all_isDigit_decimalDigits n) c h

/-- The digits of a number, with a digit in front. -/
theorem exists_decimalDigits_eq_cons (n : Nat) :
    ∃ c rest, decimalDigits n = c :: rest ∧ isDigit c = true := by
  obtain ⟨c, rest, digits⟩ := List.exists_cons_of_ne_nil (decimalDigits_ne_nil n)
  exact ⟨c, rest, digits, isDigit_of_mem_decimalDigits (by rw [digits]; simp)⟩

theorem digitValue?_of_isDigit {c : Char} (h : isDigit c = true) :
    digitValue? c = some (c.toNat - 48) := by
  unfold isDigit at h
  unfold digitValue? at h ⊢
  split at h
  · rename_i range
    rw [if_pos range]
  · cases h

/-- No digit is a blank. -/
theorem isBlank_of_isDigit {c : Char} (h : isDigit c = true) : isBlank c = false := by
  unfold isDigit digitValue? at h
  split at h
  · rename_i range
    have low : 48 ≤ c.toNat := UInt32.le_iff_toNat_le.1 (Char.le_def.1 range.1)
    have high : c.toNat ≤ 57 := UInt32.le_iff_toNat_le.1 (Char.le_def.1 range.2)
    rw [isBlank, List.contains_eq_mem, decide_eq_false_iff_not]
    intro blank
    simp only [blankPoints, List.mem_cons, List.not_mem_nil, or_false] at blank
    omega
  · cases h

theorem ne_of_isDigit {c d : Char} (h : isDigit c = true) (other : isDigit d = false) : c ≠ d := by
  rintro rfl
  rw [h] at other
  cases other

theorem toList_writeNat (n : Nat) : (writeNat n).toList = decimalDigits n := by
  rw [writeNat, String.toList_ofList]

/-- The numeral of a number below a bound reads back as the number. -/
theorem readBelow?_writeNat {bound n : Nat} (h : n < bound) :
    readBelow? bound (writeNat n) = some n := by
  obtain ⟨c, rest, digits, digit⟩ := exists_decimalDigits_eq_cons n
  have plus : c ≠ '+' := ne_of_isDigit digit rfl
  have read := readDigits?_decimalDigits n
  rw [digits] at read
  simp only [readBelow?, toList_writeNat, digits]
  split
  · rename_i same
    exact absurd (List.cons.inj same).1 plus
  · rw [read, Option.filter_some, if_pos (decide_eq_true h)]

theorem toList_writeInt_of_nonneg {i : Int} (h : 0 ≤ i) :
    (writeInt i).toList = decimalDigits i.natAbs := by
  rw [writeInt, if_neg (Int.not_lt.2 h), toList_writeNat]

theorem toList_writeInt_of_neg {i : Int} (h : i < 0) :
    (writeInt i).toList = '-' :: decimalDigits i.natAbs := by
  rw [writeInt, if_pos h, String.toList_append, toList_writeNat]
  rfl

/-- The numeral of an integer reads back as the integer if it is in range. -/
theorem readSigned?_writeInt {bits : Nat} {i : Int} (low : -(Nat.pow 2 (bits - 1) : Int) ≤ i)
    (high : i < (Nat.pow 2 (bits - 1) : Int)) : readSigned? bits (writeInt i) = some i := by
  have fits :
      decide (-(Nat.pow 2 (bits - 1) : Int) ≤ i ∧ i < (Nat.pow 2 (bits - 1) : Int)) = true :=
    decide_eq_true ⟨low, high⟩
  have read := readDigits?_decimalDigits i.natAbs
  by_cases negative : i < 0
  · have value : -(i.natAbs : Int) = i := by omega
    simp only [readSigned?, toList_writeInt_of_neg negative, read, Option.bind_eq_bind,
      Option.bind_some, Option.pure_def, Option.map_some, value]
    rw [Option.filter_some, if_pos fits]
  · obtain ⟨c, rest, digits, digit⟩ := exists_decimalDigits_eq_cons i.natAbs
    have minus : c ≠ '-' := ne_of_isDigit digit rfl
    have plus : c ≠ '+' := ne_of_isDigit digit rfl
    have value : (i.natAbs : Int) = i := by omega
    simp only [readSigned?, toList_writeInt_of_nonneg (Int.not_lt.1 negative)]
    rw [digits] at read ⊢
    split
    · rename_i same
      exact absurd (List.cons.inj same).1 minus
    · rename_i same
      exact absurd (List.cons.inj same).1 plus
    · simp only [read, Option.bind_eq_bind, Option.bind_some, Option.pure_def, Option.map_some,
        value]
      rw [Option.filter_some, if_pos fits]

/-! ## A fixed number of digits -/

theorem isDigit_of_mem_paddedDigits {width n : Nat} {c : Char} (h : c ∈ paddedDigits width n) :
    isDigit c = true := by
  induction width generalizing n with
  | zero => cases h
  | succ width ih =>
    rw [paddedDigits, List.mem_append, List.mem_singleton] at h
    rcases h with front | rfl
    · exact ih front
    · exact isDigit_digitChar (Nat.mod_lt n (by decide))

/-- Digits stand for the number that ends with them, behind what was read before. -/
theorem digitsFrom_paddedDigits (start width n : Nat) :
    digitsFrom start (paddedDigits width n) =
      start * Nat.pow 10 width + n % Nat.pow 10 width := by
  induction width generalizing n with
  | zero => simp [paddedDigits, digitsFrom, Nat.mod_one]
  | succ width ih =>
    have front := ih (n / 10)
    unfold digitsFrom at front ⊢
    rw [paddedDigits, List.foldl_append, front]
    simp only [List.foldl_cons, List.foldl_nil,
      toNat_digitChar (Nat.mod_lt n (show 0 < 10 by decide)), Nat.pow_eq, Nat.pow_succ']
    rw [Nat.mod_mul, Nat.add_mul, Nat.mul_assoc, Nat.mul_comm (10 ^ width) 10]
    omega

/-- Enough digits stand for the number itself. -/
theorem digitsValue_paddedDigits {width n : Nat} (enough : n < Nat.pow 10 width) :
    digitsValue (paddedDigits width n) = n := by
  rw [digitsValue, digitsFrom_paddedDigits, Nat.zero_mul, Nat.zero_add, Nat.mod_eq_of_lt enough]

theorem lt_pow_digitCount (n : Nat) : n < Nat.pow 10 (digitCount n) := by
  unfold digitCount
  induction n using Nat.strongRecOn with
  | _ n ih =>
    rw [decimalDigits]
    split
    · rename_i small
      simpa using small
    · rename_i large
      have front := ih (n / 10) (by omega)
      rw [List.length_append, List.length_singleton]
      simp only [Nat.pow_eq, Nat.pow_succ] at front ⊢
      omega

/-- A number below a power of ten has at most as many digits as the exponent says. -/
theorem digitCount_le {width n : Nat} (positive : 0 < width) (h : n < Nat.pow 10 width) :
    digitCount n ≤ width := by
  unfold digitCount
  induction width generalizing n with
  | zero => exact absurd positive (Nat.lt_irrefl 0)
  | succ width ih =>
    rw [decimalDigits]
    split
    · simp
    · rename_i large
      simp only [Nat.pow_eq, Nat.pow_succ] at h ih
      have more : 0 < width := by
        rcases Nat.eq_zero_or_pos width with rfl | more
        · simp at h
          omega
        · exact more
      have front := @ih (n / 10) more (by omega)
      rw [List.length_append, List.length_singleton]
      omega

end Turnstile.Text
