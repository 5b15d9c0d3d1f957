import Turnstile.Number.Double

/-!
The order of floating-point numbers that come from natural numbers and from their ratios. Main
statements: a ratio is rounded to 53 bits unless its exponent is out of range (`exists_ofRatio?`),
rounding keeps the order of natural numbers (`nearest_mono`), and the ratio of two of them, the
first of which is not the greater, is rounded to a number from zero to one (`exists_div?`).
-/

namespace Turnstile

/-! ## Powers of two -/

theorem twoPow_zero : Nat.pow 2 0 = 1 := rfl

theorem twoPow_succ (n : Nat) : Nat.pow 2 (n + 1) = Nat.pow 2 n * 2 := rfl

theorem twoPow_add (m n : Nat) : Nat.pow 2 (m + n) = Nat.pow 2 m * Nat.pow 2 n := Nat.pow_add 2 m n

theorem log2_mono {m n : Nat} (h : m ≤ n) : Nat.log2 m ≤ Nat.log2 n := by
  rcases Nat.eq_zero_or_pos m with rfl | positive
  · exact Nat.zero_le _
  · exact (Nat.le_log2 (by omega)).2 (Nat.le_trans (Nat.log2_self_le (by omega)) h)

/-! ## Rounded quotients -/

theorem roundDiv_mono {a b : Nat} (den : Nat) (h : a ≤ b) : roundDiv a den ≤ roundDiv b den := by
  have quotient := Nat.div_le_div_right (c := den) h
  rcases Nat.lt_or_ge (a / den) (b / den) with less | same
  · have above := roundDiv_le_div_add_one a den
    have below := div_le_roundDiv b den
    omega
  · have same : b / den = a / den := Nat.le_antisymm same quotient
    have ha := Nat.div_add_mod a den
    have hb := Nat.div_add_mod b den
    rw [same] at hb
    have rest : a % den ≤ b % den := by omega
    simp only [roundDiv, same]
    repeat' split
    all_goals omega

/-- A number that is not above an integer is not rounded above it. -/
theorem roundDiv_le {num den n : Nat} (positive : 0 < den) (h : num ≤ n * den) :
    roundDiv num den ≤ n := by
  rw [← roundDiv_mul_right n positive]
  exact roundDiv_mono den h

/-- A number that is not below an integer is not rounded below it. -/
theorem le_roundDiv {num den n : Nat} (positive : 0 < den) (h : n * den ≤ num) :
    n ≤ roundDiv num den := by
  rw [← roundDiv_mul_right n positive]
  exact roundDiv_mono den h

namespace Double

/-- A number from zero to one. -/
def IsShare (d : Double) : Prop := d.negative = false ∧ d.ratio.1 ≤ d.ratio.2

instance (d : Double) : Decidable d.IsShare :=
  inferInstanceAs (Decidable (d.negative = false ∧ d.ratio.1 ≤ d.ratio.2))

theorem isShare_zero : (zero false).IsShare := by
  refine ⟨rfl, ?_⟩
  rw [ratio, zero, Nat.zero_mul]
  exact Nat.zero_le _

/-! ## Rounded ratios -/

theorem ofParts?_eq_some {negative : Bool} {significand : Nat} {exponent : Int} {d : Double}
    (h : ofParts? negative significand exponent = some d) :
    d.negative = negative ∧ d.significand = significand ∧ d.exponent = exponent := by
  unfold ofParts? at h
  split at h
  · cases h
    exact ⟨rfl, rfl, rfl⟩
  · cases h

/-- The significand of a ratio before it is brought into its form. -/
def roundedPart (num den : Nat) : Nat :=
  let part := scaled num den (exponentOf num den)
  roundDiv part.1 part.2

section

variable {negative : Bool} {num den : Nat} {d : Double}

theorem ofRatio?_eq (nonzero : num ≠ 0) : ofRatio? negative num den =
    if roundedPart num den = Nat.pow 2 53 then
      ofParts? negative (Nat.pow 2 52) (exponentOf num den + 1)
    else ofParts? negative (roundedPart num den) (exponentOf num den) :=
  if_neg nonzero

theorem negative_of_ofRatio? (h : ofRatio? negative num den = some d) :
    d.negative = negative := by
  by_cases nonzero : num = 0
  · subst nonzero
    cases h
    rfl
  · rw [ofRatio?_eq nonzero] at h
    split at h <;> exact (ofParts?_eq_some h).1

/-- A rounded ratio is its significand at its exponent. -/
theorem ratio_of_ofRatio? (nonzero : num ≠ 0) (h : ofRatio? negative num den = some d) :
    d.ratio.1 * Nat.pow 2 (-exponentOf num den).toNat =
      roundedPart num den * Nat.pow 2 (exponentOf num den).toNat * d.ratio.2 := by
  rw [ofRatio?_eq nonzero] at h
  generalize exponentOf num den = e at h ⊢
  split at h
  · -- rounding up carried into the exponent
    rename_i full
    obtain ⟨-, significand, exponent⟩ := ofParts?_eq_some h
    simp only [ratio, significand, exponent, full, twoPow_succ 52]
    generalize Nat.pow 2 52 = least
    by_cases below : e < 0
    · have whole : e.toNat = 0 ∧ (e + 1).toNat = 0 := by omega
      have shift : (-e).toNat = (-(e + 1)).toNat + 1 := by omega
      rw [whole.1, whole.2, shift, twoPow_succ]
      ac_rfl
    · have whole : (-e).toNat = 0 ∧ (-(e + 1)).toNat = 0 := by omega
      have shift : (e + 1).toNat = e.toNat + 1 := by omega
      rw [whole.1, whole.2, shift, twoPow_succ]
      ac_rfl
  · obtain ⟨-, significand, exponent⟩ := ofParts?_eq_some h
    rw [ratio, significand, exponent]

end

/-! ## Exponents -/

section

variable {num den : Nat} {e : Int}

/-- At an exponent that is not too small a ratio has at most 53 bits before the point. -/
theorem scaled_lt (nonzero : den ≠ 0) (h : (Nat.log2 num : Int) - Nat.log2 den - 52 ≤ e) :
    (scaled num den e).1 < (scaled num den e).2 * Nat.pow 2 53 := by
  have high : num < Nat.pow 2 (Nat.log2 num + 1) := Nat.lt_log2_self
  have low : Nat.pow 2 (Nat.log2 den) ≤ den := Nat.log2_self_le nonzero
  calc num * Nat.pow 2 (-e).toNat
      < Nat.pow 2 (Nat.log2 num + 1) * Nat.pow 2 (-e).toNat :=
        Nat.mul_lt_mul_of_pos_right high (Nat.pow_pos (by decide))
    _ = Nat.pow 2 (Nat.log2 num + 1 + (-e).toNat) := (twoPow_add ..).symm
    _ ≤ Nat.pow 2 (Nat.log2 den + e.toNat + 53) := Nat.pow_le_pow_right (by decide) (by omega)
    _ = Nat.pow 2 (Nat.log2 den) * Nat.pow 2 e.toNat * Nat.pow 2 53 := by
        rw [twoPow_add, twoPow_add]
    _ ≤ den * Nat.pow 2 e.toNat * Nat.pow 2 53 :=
        Nat.mul_le_mul_right _ (Nat.mul_le_mul_right _ low)

/-- At an exponent that is not too great a ratio has at least 53 bits before the point. -/
theorem le_scaled (nonzero : num ≠ 0) (h : e < (Nat.log2 num : Int) - Nat.log2 den - 52) :
    (scaled num den e).2 * Nat.pow 2 52 ≤ (scaled num den e).1 := by
  have high : den < Nat.pow 2 (Nat.log2 den + 1) := Nat.lt_log2_self
  have low : Nat.pow 2 (Nat.log2 num) ≤ num := Nat.log2_self_le nonzero
  calc den * Nat.pow 2 e.toNat * Nat.pow 2 52
      ≤ Nat.pow 2 (Nat.log2 den + 1) * Nat.pow 2 e.toNat * Nat.pow 2 52 :=
        Nat.mul_le_mul_right _ (Nat.mul_le_mul_right _ (Nat.le_of_lt high))
    _ = Nat.pow 2 (Nat.log2 den + 1 + e.toNat + 52) := by
        rw [twoPow_add (Nat.log2 den + 1 + e.toNat) 52, twoPow_add (Nat.log2 den + 1) e.toNat]
    _ ≤ Nat.pow 2 (Nat.log2 num + (-e).toNat) := Nat.pow_le_pow_right (by decide) (by omega)
    _ = Nat.pow 2 (Nat.log2 num) * Nat.pow 2 (-e).toNat := twoPow_add ..
    _ ≤ num * Nat.pow 2 (-e).toNat := Nat.mul_le_mul_right _ low

/-- At the exponent below, a ratio is twice as great. -/
theorem scaled_pred_lt (h : (scaled num den e).1 < (scaled num den e).2 * Nat.pow 2 52) :
    (scaled num den (e - 1)).1 < (scaled num den (e - 1)).2 * Nat.pow 2 53 := by
  simp only [scaled, twoPow_succ 52] at h ⊢
  generalize Nat.pow 2 52 = least at h ⊢
  by_cases below : e ≤ 0
  · have whole : (e - 1).toNat = 0 ∧ e.toNat = 0 := by omega
    have shift : (-(e - 1)).toNat = (-e).toNat + 1 := by omega
    rw [whole.2] at h
    rw [whole.1, shift, twoPow_succ, ← Nat.mul_assoc, ← Nat.mul_assoc]
    exact Nat.mul_lt_mul_of_pos_right h (by decide)
  · have whole : (-(e - 1)).toNat = 0 ∧ (-e).toNat = 0 := by omega
    have shift : e.toNat = (e - 1).toNat + 1 := by omega
    rw [whole.2, shift, twoPow_succ] at h
    rw [whole.1]
    calc num * Nat.pow 2 0 < den * (Nat.pow 2 (e - 1).toNat * 2) * least := h
      _ = den * Nat.pow 2 (e - 1).toNat * (least * 2) := by ac_rfl

/-- At its exponent a ratio has 53 bits before the point, or fewer if the exponent is the least. -/
theorem scaled_exponentOf (num_ne : num ≠ 0) (den_ne : den ≠ 0) :
    let part := scaled num den (exponentOf num den)
    part.1 < part.2 * Nat.pow 2 53 ∧
      (part.2 * Nat.pow 2 52 ≤ part.1 ∨ exponentOf num den = -1074) := by
  have chosen : exponentOf num den = max (-1074)
      (if (scaled num den ((Nat.log2 num : Int) - Nat.log2 den - 52)).1 <
          (scaled num den ((Nat.log2 num : Int) - Nat.log2 den - 52)).2 * Nat.pow 2 52
        then (Nat.log2 num : Int) - Nat.log2 den - 52 - 1
        else (Nat.log2 num : Int) - Nat.log2 den - 52) := rfl
  rw [chosen]
  split
  · rename_i less
    rcases Int.le_total (-1074) ((Nat.log2 num : Int) - Nat.log2 den - 52 - 1) with room | least
    · rw [Int.max_eq_right room]
      exact ⟨scaled_pred_lt less, .inl (le_scaled num_ne (by omega))⟩
    · rw [Int.max_eq_left least]
      refine ⟨?_, .inr rfl⟩
      by_cases below : (Nat.log2 num : Int) - Nat.log2 den - 52 - 1 = -1074
      · rw [← below]
        exact scaled_pred_lt less
      · exact scaled_lt den_ne (by omega)
  · rename_i more
    rcases Int.le_total (-1074) ((Nat.log2 num : Int) - Nat.log2 den - 52) with room | least
    · rw [Int.max_eq_right room]
      exact ⟨scaled_lt den_ne (by omega), .inl (Nat.not_lt.1 more)⟩
    · rw [Int.max_eq_left least]
      exact ⟨scaled_lt den_ne (by omega), .inr rfl⟩

/-- At its exponent the significand of a ratio fits, and is as long as it can be. -/
theorem roundedPart_bounds (num_ne : num ≠ 0) (den_ne : den ≠ 0) :
    roundedPart num den ≤ Nat.pow 2 53 ∧
      (Nat.pow 2 52 ≤ roundedPart num den ∨ exponentOf num den = -1074) := by
  obtain ⟨short, long⟩ := scaled_exponentOf num_ne den_ne
  have positive : 0 < (scaled num den (exponentOf num den)).2 :=
    Nat.mul_pos (Nat.pos_of_ne_zero den_ne) (Nat.pow_pos (by decide))
  refine ⟨roundDiv_le positive ?_, long.imp (fun h => le_roundDiv positive ?_) id⟩
  · rw [Nat.mul_comm]
    exact Nat.le_of_lt short
  · rw [Nat.mul_comm]
    exact h

/-- A ratio whose exponent is not too great is rounded to a number. -/
theorem exists_ofRatio? (negative : Bool) (den_ne : den ≠ 0) (h : exponentOf num den ≤ 970) :
    ∃ d, ofRatio? negative num den = some d := by
  by_cases num_ne : num = 0
  · exact ⟨zero negative, if_pos num_ne⟩
  obtain ⟨short, long⟩ := roundedPart_bounds num_ne den_ne
  have least : -1074 ≤ exponentOf num den := Int.le_max_left ..
  rw [ofRatio?_eq num_ne]
  split
  · exact ⟨_, dif_pos ⟨by decide, by omega, by omega, .inl (Nat.le_refl _)⟩⟩
  · rename_i unfilled
    exact ⟨_, dif_pos ⟨Nat.lt_of_le_of_ne short unfilled, by omega, by omega, long⟩⟩

end

/-! ## Ratios up to one -/

section

variable {num den : Nat}

theorem exponentOf_le (h : num ≤ den) : exponentOf num den ≤ -52 := by
  have logs := log2_mono h
  simp only [exponentOf]
  split <;> omega

/-- A ratio that is not above one is not rounded above it. -/
theorem isShare_of_ofRatio? {d : Double} (positive : 0 < den) (h : num ≤ den)
    (rounded : ofRatio? false num den = some d) : d.IsShare := by
  refine ⟨negative_of_ofRatio? rounded, ?_⟩
  rcases Nat.eq_zero_or_pos num with rfl | nonzero
  · cases rounded
    exact isShare_zero.2
  have value := ratio_of_ofRatio? (by omega) rounded
  have small := exponentOf_le h
  have whole : (exponentOf num den).toNat = 0 := by omega
  have part : roundedPart num den =
      roundDiv (num * Nat.pow 2 (-exponentOf num den).toNat) (den * Nat.pow 2 0) := by
    rw [← whole]
    rfl
  have bound : roundedPart num den ≤ Nat.pow 2 (-exponentOf num den).toNat := by
    rw [part, twoPow_zero, Nat.mul_one]
    refine roundDiv_le positive ?_
    rw [Nat.mul_comm]
    exact Nat.mul_le_mul_left _ h
  rw [whole, twoPow_zero, Nat.mul_one] at value
  refine Nat.le_of_mul_le_mul_right (c := Nat.pow 2 (-exponentOf num den).toNat) ?_
    (Nat.pow_pos (by decide))
  rw [value, Nat.mul_comm d.ratio.2]
  exact Nat.mul_le_mul_right _ bound

end

/-! ## Natural numbers -/

/-- The natural number that a number is rounded to: the nearest one with 53 significant bits. -/
def nearest (n : Nat) : Nat :=
  let unit := Nat.pow 2 (Nat.log2 n - 52)
  roundDiv n unit * unit

theorem nearest_zero : nearest 0 = 0 := by decide

section

variable {n : Nat}

theorem exponentOf_one (nonzero : n ≠ 0) : exponentOf n 1 = (Nat.log2 n : Int) - 52 := by
  have low : Nat.pow 2 (Nat.log2 n) ≤ n := Nat.log2_self_le nonzero
  have none : Nat.log2 1 = 0 := by decide
  simp only [exponentOf, scaled, none]
  generalize Nat.log2 n = l at low ⊢
  rw [if_neg]
  · omega
  rw [Nat.not_lt, Nat.one_mul]
  by_cases below : l < 52
  · have whole : ((l : Int) - (0 : Nat) - 52).toNat = 0 := by omega
    have shift : 52 = l + (-((l : Int) - (0 : Nat) - 52)).toNat := by omega
    rw [whole, twoPow_zero, Nat.one_mul]
    calc Nat.pow 2 52 = Nat.pow 2 l * Nat.pow 2 (-((l : Int) - (0 : Nat) - 52)).toNat := by
          rw [← twoPow_add, ← shift]
      _ ≤ _ := Nat.mul_le_mul_right _ low
  · have whole : (-((l : Int) - (0 : Nat) - 52)).toNat = 0 := by omega
    have shift : ((l : Int) - (0 : Nat) - 52).toNat + 52 = l := by omega
    rw [whole, twoPow_zero, Nat.mul_one, ← twoPow_add, shift]
    exact low

/-- A rounded natural number is the natural number nearest to it. -/
theorem ratio_of_ofInt? {d : Double} (h : ofInt? n = some d) :
    d.negative = false ∧ d.ratio.1 = nearest n * d.ratio.2 := by
  have positive : decide ((n : Int) < 0) = false := by simp
  rw [ofInt?, positive, Int.natAbs_natCast] at h
  refine ⟨negative_of_ofRatio? h, ?_⟩
  rcases Nat.eq_zero_or_pos n with rfl | nonzero
  · cases h
    rw [ratio, zero, nearest_zero, Nat.zero_mul, Nat.zero_mul]
  have value := ratio_of_ofRatio? (by omega) h
  have part : roundedPart n 1 = roundDiv (n * Nat.pow 2 (-exponentOf n 1).toNat)
    (Nat.pow 2 (exponentOf n 1).toNat) := by
      rw [← Nat.one_mul (Nat.pow 2 (exponentOf n 1).toNat)]
      rfl
  rw [part, exponentOf_one (by omega)] at value
  rw [nearest]
  generalize Nat.log2 n = l at value ⊢
  by_cases below : l < 52
  · have whole : ((l : Int) - 52).toNat = 0 ∧ l - 52 = 0 := by omega
    rw [whole.1] at value
    rw [whole.2]
    rw [twoPow_zero] at value ⊢
    have whole : ∀ k, roundDiv k 1 = k := fun k => by
      simpa using roundDiv_mul_right k Nat.one_pos
    rw [whole, Nat.mul_one] at value
    rw [whole, Nat.mul_one]
    refine Nat.eq_of_mul_eq_mul_right (m := Nat.pow 2 (-((l : Int) - 52)).toNat)
      (Nat.pow_pos (by decide)) ?_
    rw [value]
    ac_rfl
  · have whole : (-((l : Int) - 52)).toNat = 0 := by omega
    have shift : ((l : Int) - 52).toNat = l - 52 := by omega
    rw [whole, shift, twoPow_zero, Nat.mul_one, Nat.mul_one] at value
    exact value

/-- Rounding keeps the order of natural numbers. -/
theorem nearest_mono {m n : Nat} (h : m ≤ n) : nearest m ≤ nearest n := by
  rcases Nat.eq_zero_or_pos m with rfl | positive
  · rw [nearest_zero]
    exact Nat.zero_le _
  have logs := log2_mono h
  have high : m < Nat.pow 2 (Nat.log2 m + 1) := Nat.lt_log2_self
  have low : Nat.pow 2 (Nat.log2 n) ≤ n := Nat.log2_self_le (by omega)
  simp only [nearest]
  generalize Nat.log2 m = k at logs high ⊢
  generalize Nat.log2 n = l at logs low ⊢
  rcases Nat.eq_or_lt_of_le (Nat.sub_le_sub_right logs 52) with same | less
  · rw [same]
    exact Nat.mul_le_mul_right _ (roundDiv_mono _ h)
  · -- the greatest significand at the one exponent is not above the least one at the other
    have above : roundDiv m (Nat.pow 2 (k - 52)) ≤ Nat.pow 2 53 := by
      refine roundDiv_le (Nat.pow_pos (by decide)) (Nat.le_trans (Nat.le_of_lt high) ?_)
      rw [← twoPow_add]
      exact Nat.pow_le_pow_right (by decide) (by omega)
    have below : Nat.pow 2 52 ≤ roundDiv n (Nat.pow 2 (l - 52)) := by
      refine le_roundDiv (Nat.pow_pos (by decide)) (Nat.le_trans ?_ low)
      rw [← twoPow_add]
      exact Nat.pow_le_pow_right (by decide) (by omega)
    calc roundDiv m (Nat.pow 2 (k - 52)) * Nat.pow 2 (k - 52)
        ≤ Nat.pow 2 53 * Nat.pow 2 (k - 52) := Nat.mul_le_mul_right _ above
      _ = Nat.pow 2 (53 + (k - 52)) := (twoPow_add ..).symm
      _ ≤ Nat.pow 2 (52 + (l - 52)) := Nat.pow_le_pow_right (by decide) (by omega)
      _ = Nat.pow 2 52 * Nat.pow 2 (l - 52) := twoPow_add ..
      _ ≤ roundDiv n (Nat.pow 2 (l - 52)) * Nat.pow 2 (l - 52) := Nat.mul_le_mul_right _ below

end

/-- Natural numbers of 64 bits are rounded to numbers. -/
theorem exists_ofInt? {n : Nat} (h : n < Nat.pow 2 64) : ∃ d, ofInt? n = some d := by
  refine exists_ofRatio? _ (by decide) ?_
  rw [Int.natAbs_natCast]
  rcases Nat.eq_zero_or_pos n with rfl | positive
  · decide
  rw [exponentOf_one (by omega)]
  have short : Nat.log2 n < 64 := (Nat.log2_lt (by omega)).2 h
  omega

/-- The ratio of two rounded natural numbers, the first of which is not the greater, is rounded to a
number from zero to one. -/
theorem exists_div? {m n : Nat} {a b : Double} (h : m ≤ n) (nonzero : n ≠ 0)
    (ha : ofInt? m = some a) (hb : ofInt? n = some b) : ∃ d, a.div? b = some d ∧ d.IsShare := by
  obtain ⟨signA, valueA⟩ := ratio_of_ofInt? ha
  obtain ⟨signB, valueB⟩ := ratio_of_ofInt? hb
  have positive : ∀ d : Double, 0 < d.ratio.2 := fun d => Nat.pow_pos (by decide)
  have divisor : 0 < b.ratio.1 := by
    have one : 1 ≤ nearest n := nearest_mono (m := 1) (Nat.pos_of_ne_zero nonzero)
    rw [valueB]
    exact Nat.mul_pos one (positive b)
  have ordered : a.ratio.1 * b.ratio.2 ≤ a.ratio.2 * b.ratio.1 := by
    rw [valueA, valueB, ← Nat.mul_assoc, Nat.mul_comm a.ratio.2]
    exact Nat.mul_le_mul_right _ (Nat.mul_le_mul_right _ (nearest_mono h))
  have denominator := Nat.mul_pos (positive a) divisor
  obtain ⟨d, rounded⟩ := exists_ofRatio? false (Nat.ne_of_gt denominator)
    (Int.le_trans (exponentOf_le ordered) (by decide))
  refine ⟨d, ?_, isShare_of_ofRatio? denominator ordered rounded⟩
  simp only [div?, signA, signB, bne_self_eq_false]
  rw [if_neg (Nat.ne_of_gt divisor)]
  exact rounded

end Double

end Turnstile
