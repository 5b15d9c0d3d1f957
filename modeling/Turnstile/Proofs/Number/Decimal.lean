import Mathlib.Algebra.Order.Field.Rat
import Mathlib.Data.Rat.Cast.Order
import Mathlib.Tactic.FieldSimp
import Mathlib.Tactic.Linarith
import Mathlib.Tactic.NormNum
import Mathlib.Tactic.Positivity
import Mathlib.Tactic.Ring
import Turnstile.Number.Decimal
import Turnstile.Proofs.Number.Order

/-!
What decimal numbers stand for. Main statements: a product and a sum are what their exact values are
rounded to (`rounds_mul?`, `rounds_add?`), where `Rounds` says that nothing is left exactly of a
number that is rounded to an integer of more than 96 bits, and that any other number is at most half
a unit off.

The whole argument is about `fit?`: it drops the fewest digits that it can, and a coefficient that
is rounded to 97 bits without its last digits is rounded to 97 bits with fewer of them gone
(`limit_le_roundDiv_mono`).
-/

namespace Turnstile

/-! ## Rounded quotients -/

/-- An even number is reached from half a step below it. -/
theorem le_roundDiv_iff_of_even {num den m : Nat} (positive : 0 < den) (nonzero : 0 < m)
    (even : m % 2 = 0) : m ≤ roundDiv num den ↔ (2 * m - 1) * den ≤ 2 * num := by
  have parts := Nat.div_add_mod num den
  have rest := Nat.mod_lt num positive
  have above := roundDiv_le_div_add_one num den
  have below := div_le_roundDiv num den
  obtain ⟨k, rfl⟩ : ∃ k, m = k + 1 := ⟨m - 1, by omega⟩
  have odd : (2 * (k + 1) - 1) * den = 2 * (den * k) + den := by
    rw [show 2 * (k + 1) - 1 = 2 * k + 1 by omega]
    ring
  rw [odd]
  rcases Nat.lt_trichotomy (num / den) k with less | same | more
  · -- the quotient is a whole step or more below the middle
    have step : den * (num / den) + den ≤ den * k := by
      rw [← Nat.mul_succ]
      exact Nat.mul_le_mul_left den less
    constructor <;> intro h <;> omega
  · -- the quotient is odd, so a half goes up
    have rounded : roundDiv num den = if 2 * (num % den) < den then k else k + 1 := by
      unfold roundDiv
      simp only [same]
      split
      · rfl
      · split
        · rfl
        · rw [if_neg (by omega)]
    rw [same] at parts
    rw [rounded]
    split <;> constructor <;> intro h <;> omega
  · have step : den * k + den ≤ den * (num / den) := by
      rw [← Nat.mul_succ]
      exact Nat.mul_le_mul_left den more
    constructor <;> intro h <;> omega

/-- A rounded quotient is at most half a step off. -/
theorem abs_roundDiv_sub_le (num : Nat) {den : Nat} (positive : 0 < den) :
    |(roundDiv num den : ℚ) - num / den| ≤ 1 / 2 := by
  have parts := Nat.div_add_mod num den
  have rest := Nat.mod_lt num positive
  have step := Nat.mul_add den (num / den) 1
  have sides : 2 * (den * roundDiv num den) ≤ 2 * num + den ∧
      2 * num ≤ 2 * (den * roundDiv num den) + den := by
    unfold roundDiv
    simp only []
    repeat' split
    all_goals omega
  have pos : (0 : ℚ) < den := by exact_mod_cast positive
  have upper : 2 * (den * (roundDiv num den : ℚ)) ≤ 2 * num + den := by exact_mod_cast sides.1
  have lower : 2 * (num : ℚ) ≤ 2 * (den * roundDiv num den) + den := by exact_mod_cast sides.2
  have quotient : (num : ℚ) = den * (num / den) := by field_simp
  rw [quotient] at upper lower
  rw [abs_le]
  constructor
  · refine le_of_mul_le_mul_left ?_ pos
    linarith
  · refine le_of_mul_le_mul_left ?_ pos
    linarith

namespace Decimal

variable {negative : Bool} {coefficient scale : Nat} {a b d : Decimal}

/-! ## Values -/

/-- The number with the given sign, coefficient and scale, whether or not they are in range. -/
def ratio (negative : Bool) (coefficient scale : Nat) : ℚ :=
  (if negative then -1 else 1) * (coefficient / 10 ^ scale)

/-- What a decimal number stands for. -/
def value (d : Decimal) : ℚ := ratio d.negative d.coefficient d.scale

/-- The least number that is rounded to an integer of more than 96 bits: half a step below the
limit, which is even. -/
def bound : ℚ := limit - 1 / 2

/-- What an exact number is rounded to: nothing exactly if it is out of range, and otherwise a
number that is at most half a unit off and not on the other side of zero. -/
structure Rounds (exact : ℚ) (rounded : Option Decimal) : Prop where
  eq_none_iff : rounded = none ↔ bound ≤ |exact|
  abs_value_sub_le : ∀ {d}, rounded = some d → |d.value - exact| ≤ 1 / 2
  value_nonneg : ∀ {d}, rounded = some d → 0 ≤ exact → 0 ≤ d.value

theorem abs_ratio (negative : Bool) (coefficient scale : Nat) :
    |ratio negative coefficient scale| = coefficient / 10 ^ scale := by
  have nonneg : (0 : ℚ) ≤ coefficient / 10 ^ scale := by positivity
  unfold ratio
  cases negative <;> simp [abs_of_nonneg nonneg]

theorem ratio_zero (negative : Bool) (scale : Nat) : ratio negative 0 scale = 0 := by
  simp [ratio]

theorem ratio_false (coefficient scale : Nat) :
    ratio false coefficient scale = coefficient / 10 ^ scale := by
  simp [ratio]

/-- The sign is that of the coefficient. -/
theorem ratio_natAbs (i : Int) (scale : Nat) :
    ratio (decide (i < 0)) i.natAbs scale = i / 10 ^ scale := by
  rcases lt_or_ge i 0 with below | above
  · have abs : (i.natAbs : ℚ) = -i := by
      rw [Nat.cast_natAbs, abs_of_neg below]
      push_cast
      rfl
    simp only [ratio, below, decide_true, if_true, abs]
    ring
  · have abs : (i.natAbs : ℚ) = i := by
      rw [Nat.cast_natAbs, abs_of_nonneg above]
    simp only [ratio, Int.not_lt.2 above, decide_false, abs]
    simp

theorem ratio_mul_ratio (m n : Bool) (j k s t : Nat) :
    ratio m j s * ratio n k t = ratio (m != n) (j * k) (s + t) := by
  unfold ratio
  rw [pow_add]
  cases m <;> cases n <;> simp <;> ring

theorem value_eq_signed (d : Decimal) : d.value = d.signed / 10 ^ d.scale := by
  unfold value ratio signed
  cases d.negative
  · simp
  · simp
    ring

theorem value_of_coefficient_eq_zero (h : d.coefficient = 0) : d.value = 0 := by
  rw [value, h, ratio_zero]

@[simp]
theorem value_zero : zero.value = 0 := value_of_coefficient_eq_zero rfl

theorem abs_value_lt (d : Decimal) : |d.value| < bound := by
  have digits : (d.coefficient : ℚ) / 10 ^ d.scale ≤ d.coefficient :=
    div_le_self (by positivity) (one_le_pow₀ (by norm_num))
  have small : (d.coefficient : ℚ) + 1 ≤ limit := by exact_mod_cast d.coefficient_lt
  rw [value, abs_ratio]
  unfold bound
  linarith

theorem isNegative_eq_false_iff : d.isNegative = false ↔ 0 ≤ d.value := by
  have nonneg : (0 : ℚ) ≤ d.coefficient / 10 ^ d.scale := by positivity
  unfold isNegative value ratio
  cases sign : d.negative
  · simpa using nonneg
  · by_cases zero : d.coefficient = 0
    · simp [zero]
    · have positive : (0 : ℚ) < d.coefficient / 10 ^ d.scale := by positivity
      simp [zero, positive]

/-! ## Digits that do not fit -/

/-- With enough fuel the digits that remain fit. -/
theorem div_excess_lt {fuel : Nat} (h : coefficient < 10 ^ fuel * limit) :
    coefficient / 10 ^ excess fuel coefficient < limit := by
  induction fuel generalizing coefficient with
  | zero => simpa [excess] using h
  | succ fuel ih =>
    unfold excess
    split
    · rename_i small
      simpa using small
    · rw [pow_succ', ← Nat.div_div_eq_div_mul]
      refine ih (Nat.div_lt_of_lt_mul ?_)
      calc coefficient < 10 ^ (fuel + 1) * limit := h
        _ = 10 * (10 ^ fuel * limit) := by ring

/-- With fewer digits gone they do not fit. -/
theorem limit_le_div_of_lt_excess {fuel drop : Nat} (h : drop < excess fuel coefficient) :
    limit ≤ coefficient / 10 ^ drop := by
  induction fuel generalizing coefficient drop with
  | zero => simp [excess] at h
  | succ fuel ih =>
    unfold excess at h
    split at h
    · omega
    · rename_i large
      cases drop with
      | zero => simpa using large
      | succ drop =>
        rw [pow_succ', ← Nat.div_div_eq_div_mul]
        exact ih (by omega)

theorem limit_le_roundDiv_iff (drop : Nat) :
    limit ≤ roundDiv coefficient (10 ^ drop) ↔ (2 * limit - 1) * 10 ^ drop ≤ 2 * coefficient :=
  le_roundDiv_iff_of_even (Nat.pow_pos (by decide)) (by decide) (by decide)

/-- A coefficient that does not fit without its last digits does not fit with fewer of them gone. -/
theorem limit_le_roundDiv_mono {few many : Nat} (h : few ≤ many)
    (large : limit ≤ roundDiv coefficient (10 ^ many)) :
    limit ≤ roundDiv coefficient (10 ^ few) := by
  rw [limit_le_roundDiv_iff] at large ⊢
  calc (2 * limit - 1) * 10 ^ few ≤ (2 * limit - 1) * 10 ^ many :=
        Nat.mul_le_mul_left _ (Nat.pow_le_pow_right (by decide) h)
    _ ≤ 2 * coefficient := large

/-- One digit more than needed is enough, also where rounding carries. -/
theorem roundDiv_lt_limit_of_div_lt {drop : Nat} (h : coefficient / 10 ^ drop < limit) :
    roundDiv coefficient (10 ^ (drop + 1)) < limit := by
  rw [Nat.div_lt_iff_lt_mul (Nat.pow_pos (by decide))] at h
  rw [← Nat.not_le, limit_le_roundDiv_iff, pow_succ]
  have wide : 2 * limit ≤ (2 * limit - 1) * 10 := by decide
  have := Nat.mul_le_mul_right (10 ^ drop) wide
  intro large
  have same : (2 * limit - 1) * (10 ^ drop * 10) = (2 * limit - 1) * 10 * 10 ^ drop := by ring
  have twice : 2 * limit * 10 ^ drop = 2 * (limit * 10 ^ drop) := by ring
  omega

/-- The digits that `fit?` drops at first. -/
def dropped (coefficient scale : Nat) : Nat :=
  max (excess coefficient coefficient) (scale - maxScale)

theorem div_dropped_lt (coefficient scale : Nat) :
    coefficient / 10 ^ dropped coefficient scale < limit := by
  have fuel : coefficient < 10 ^ coefficient * limit := by
    calc coefficient < 10 ^ coefficient := Nat.lt_pow_self (by decide)
      _ ≤ 10 ^ coefficient * limit := Nat.le_mul_of_pos_right _ (by decide)
  refine Nat.lt_of_le_of_lt (Nat.div_le_div_left ?_ (Nat.pow_pos (by decide))) (div_excess_lt fuel)
  exact Nat.pow_le_pow_right (by decide) (Nat.le_max_left ..)

theorem fit?_eq (negative : Bool) (coefficient scale : Nat) : fit? negative coefficient scale =
    let drop := dropped coefficient scale
    if scale < drop then none
    else if roundDiv coefficient (10 ^ drop) < limit then
      ofParts? negative (roundDiv coefficient (10 ^ drop)) (scale - drop)
    else if scale < drop + 1 then none
    else ofParts? negative (roundDiv coefficient (10 ^ (drop + 1))) (scale - (drop + 1)) :=
  rfl

/-- What fits is rounded without its last digits. -/
theorem exists_drop_of_fit? (h : fit? negative coefficient scale = some d) :
    ∃ drop ≤ scale, d.coefficient = roundDiv coefficient (10 ^ drop) ∧ d.scale = scale - drop ∧
      d.negative = (negative && decide (d.coefficient ≠ 0)) := by
  have parts : ∀ {c s : Nat}, ofParts? negative c s = some d →
      d.coefficient = c ∧ d.scale = s ∧ d.negative = (negative && decide (d.coefficient ≠ 0)) := by
    intro c s made
    unfold ofParts? at made
    split at made
    · cases made
      exact ⟨rfl, rfl, rfl⟩
    · cases made
  rw [fit?_eq] at h
  simp only [] at h
  split at h
  · cases h
  · split at h
    · exact ⟨_, by omega, parts h⟩
    · split at h
      · cases h
      · exact ⟨_, by omega, parts h⟩

/-- A number is out of range exactly if its rounded integer part is. -/
theorem fit?_eq_none_iff_limit_le :
    fit? negative coefficient scale = none ↔ limit ≤ roundDiv coefficient (10 ^ scale) := by
  have small := div_dropped_lt coefficient scale
  have made : ∀ {drop : Nat}, dropped coefficient scale ≤ drop → drop ≤ scale →
      roundDiv coefficient (10 ^ drop) < limit →
      (ofParts? negative (roundDiv coefficient (10 ^ drop)) (scale - drop) = none ↔
        limit ≤ roundDiv coefficient (10 ^ scale)) := by
    intro drop enough within fits
    have short : scale - drop ≤ 28 := by
      have : scale - maxScale ≤ drop := Nat.le_trans (Nat.le_max_right ..) enough
      unfold maxScale at this
      omega
    obtain ⟨d, made, -⟩ := @ofParts?_eq_some negative _ _ fits short
    rw [made]
    refine iff_of_false (Option.some_ne_none d) ?_
    intro large
    have := limit_le_roundDiv_mono within large
    omega
  rw [fit?_eq]
  simp only []
  split
  · -- the integer part alone has too many digits
    rename_i long
    have excess : scale < excess coefficient coefficient := by
      unfold dropped at long
      omega
    exact iff_of_true rfl
      (Nat.le_trans (limit_le_div_of_lt_excess excess) (div_le_roundDiv ..))
  · split
    · rename_i within fits
      exact made (Nat.le_refl _) (by omega) fits
    · rename_i within carried
      split
      · have last : scale = dropped coefficient scale := by omega
        rw [last]
        exact iff_of_true rfl (Nat.not_lt.1 carried)
      · exact made (by omega) (by omega) (roundDiv_lt_limit_of_div_lt small)

theorem fit?_eq_none_iff :
    fit? negative coefficient scale = none ↔ bound ≤ |ratio negative coefficient scale| := by
  rw [fit?_eq_none_iff_limit_le, limit_le_roundDiv_iff, abs_ratio, le_div_iff₀ (by positivity)]
  have half : bound * 10 ^ scale * 2 = ((2 * limit - 1 : Nat) : ℚ) * 10 ^ scale := by
    rw [Nat.cast_sub (by decide)]
    unfold bound
    push_cast
    ring
  constructor
  · intro h
    have cast : ((2 * limit - 1 : Nat) : ℚ) * 10 ^ scale ≤ 2 * coefficient := by exact_mod_cast h
    linarith
  · intro h
    have cast : ((2 * limit - 1 : Nat) : ℚ) * 10 ^ scale ≤ 2 * coefficient := by linarith
    exact_mod_cast cast

/-- What fits is at most half a unit off. -/
theorem abs_value_sub_le_of_fit? (h : fit? negative coefficient scale = some d) :
    |d.value - ratio negative coefficient scale| ≤ 1 / 2 := by
  obtain ⟨drop, within, digits, point, sign⟩ := exists_drop_of_fit? h
  have signed : d.value = ratio negative d.coefficient d.scale := by
    unfold value
    by_cases zero : d.coefficient = 0
    · rw [zero, ratio_zero, ratio_zero]
    · rw [sign]
      simp [zero]
  have shift : (coefficient : ℚ) / 10 ^ scale = coefficient / 10 ^ drop / 10 ^ d.scale := by
    rw [div_div, ← pow_add, point, Nat.add_sub_cancel' within]
  have apart : d.value - ratio negative coefficient scale =
      (if negative then -1 else 1) *
        ((roundDiv coefficient (10 ^ drop) - coefficient / 10 ^ drop) / 10 ^ d.scale) := by
    rw [signed, ratio, ratio, shift, digits]
    ring
  have rounded := abs_roundDiv_sub_le coefficient (Nat.pow_pos (by decide) : 0 < 10 ^ drop)
  push_cast at rounded
  have unit : |(if negative then -1 else 1 : ℚ)| = 1 := by cases negative <;> simp
  rw [apart, abs_mul, unit, one_mul, abs_div, abs_of_pos (by positivity : (0 : ℚ) < 10 ^ d.scale)]
  exact le_trans (div_le_self (abs_nonneg _) (one_le_pow₀ (by norm_num))) rounded

/-- Rounding does not go below zero. -/
theorem value_nonneg_of_fit? (h : fit? negative coefficient scale = some d)
    (nonneg : 0 ≤ ratio negative coefficient scale) : 0 ≤ d.value := by
  obtain ⟨drop, -, digits, -, sign⟩ := exists_drop_of_fit? h
  cases negative
  · rw [← isNegative_eq_false_iff]
    unfold isNegative
    rw [sign]
    rfl
  · -- nothing but zero has the sign of a negative number and is not below zero
    have zero : (coefficient : ℚ) / 10 ^ scale = 0 := by
      have above : (0 : ℚ) ≤ coefficient / 10 ^ scale := by positivity
      simp only [ratio, if_true] at nonneg
      linarith
    have none : coefficient = 0 := by
      simpa using zero
    have rounded : d.coefficient = 0 := by
      rw [digits, none]
      simp [roundDiv]
    rw [value_of_coefficient_eq_zero rounded]

/-! ## Products and sums -/

theorem rounds_fit? (negative : Bool) (coefficient scale : Nat) :
    Rounds (ratio negative coefficient scale) (fit? negative coefficient scale) :=
  ⟨fit?_eq_none_iff, abs_value_sub_le_of_fit?, value_nonneg_of_fit?⟩

/-- A number in range is not rounded. -/
theorem rounds_value (d : Decimal) : Rounds d.value (some d) where
  eq_none_iff := iff_of_false (Option.some_ne_none d) (not_le.2 d.abs_value_lt)
  abs_value_sub_le := by
    rintro _ ⟨⟩
    rw [sub_self, abs_zero]
    norm_num
  value_nonneg := by
    rintro _ ⟨⟩ nonneg
    exact nonneg

theorem rounds_mul? (a b : Decimal) : Rounds (a.value * b.value) (a.mul? b) := by
  unfold mul?
  split
  · rename_i none
    have nothing : a.value * b.value = zero.value := by
      rw [value_zero]
      rcases none with h | h
      · rw [value_of_coefficient_eq_zero h, zero_mul]
      · rw [value_of_coefficient_eq_zero h, mul_zero]
    rw [nothing]
    exact rounds_value zero
  · unfold value
    rw [ratio_mul_ratio]
    exact rounds_fit? ..

/-- A number with its digits moved to a larger scale. -/
theorem value_eq_signed_div {scale : Nat} (h : d.scale ≤ scale) :
    d.value = (d.signed * 10 ^ (scale - d.scale) : Int) / 10 ^ scale := by
  have split : (10 : ℚ) ^ scale = 10 ^ (scale - d.scale) * 10 ^ d.scale := by
    rw [← pow_add, Nat.sub_add_cancel h]
  rw [value_eq_signed, split]
  push_cast
  field_simp

theorem rounds_add? (a b : Decimal) : Rounds (a.value + b.value) (a.add? b) := by
  unfold add?
  split
  · rename_i none
    rw [value_of_coefficient_eq_zero none, zero_add]
    exact rounds_value b
  · split
    · rename_i none
      rw [value_of_coefficient_eq_zero none, add_zero]
      exact rounds_value a
    · rw [value_eq_signed_div (Nat.le_max_left a.scale b.scale),
        value_eq_signed_div (Nat.le_max_right a.scale b.scale), ← add_div, ← Int.cast_add,
        ← ratio_natAbs]
      exact rounds_fit? ..

/-- A product that fits is not rounded. -/
theorem exists_mul?_of_lt (ha : a.negative = false) (hb : b.negative = false)
    (ha0 : a.coefficient ≠ 0) (hb0 : b.coefficient ≠ 0)
    (digits : a.coefficient * b.coefficient < limit) (point : a.scale + b.scale ≤ maxScale) :
    ∃ d, a.mul? b = some d ∧ d.negative = false ∧ d.coefficient = a.coefficient * b.coefficient ∧
      d.scale = a.scale + b.scale := by
  have some : ¬(a.coefficient = 0 ∨ b.coefficient = 0) := by omega
  obtain ⟨d, made, coefficient, scale, sign⟩ := @ofParts?_eq_some false _ _ digits point
  refine ⟨d, ?_, sign, coefficient, scale⟩
  rw [mul?, if_neg some, fit?_of_lt digits point, ha, hb]
  exact made

/-- The digits of a sum at the larger of the two scales. -/
def sumDigits (a b : Decimal) : Nat :=
  a.coefficient * 10 ^ (max a.scale b.scale - a.scale) +
    b.coefficient * 10 ^ (max a.scale b.scale - b.scale)

/-- The digits of a sum at a scale that is larger than both. -/
theorem sumDigits_mul_pow (ha : a.scale ≤ scale) (hb : b.scale ≤ scale) :
    sumDigits a b * 10 ^ (scale - max a.scale b.scale) =
      a.coefficient * 10 ^ (scale - a.scale) + b.coefficient * 10 ^ (scale - b.scale) := by
  have left : scale - a.scale =
      (max a.scale b.scale - a.scale) + (scale - max a.scale b.scale) := by omega
  have right : scale - b.scale =
      (max a.scale b.scale - b.scale) + (scale - max a.scale b.scale) := by omega
  rw [left, right, pow_add, pow_add]
  unfold sumDigits
  ring

/-- A sum that fits with the digits of a scale that is larger than both is not rounded. -/
theorem exists_add?_of_lt (ha : a.negative = false) (hb : b.negative = false)
    (ha0 : a.coefficient ≠ 0) (hb0 : b.coefficient ≠ 0) (hsa : a.scale ≤ scale)
    (hsb : b.scale ≤ scale)
    (fits : a.coefficient * 10 ^ (scale - a.scale) + b.coefficient * 10 ^ (scale - b.scale) <
      limit) :
    ∃ d, a.add? b = some d ∧ d.negative = false ∧ d.scale = max a.scale b.scale ∧
      d.coefficient * 10 ^ (scale - d.scale) =
        a.coefficient * 10 ^ (scale - a.scale) + b.coefficient * 10 ^ (scale - b.scale) := by
  have moved := sumDigits_mul_pow hsa hsb
  have digits : sumDigits a b < limit := by
    have grows := Nat.le_mul_of_pos_right (sumDigits a b)
      (Nat.pow_pos (n := scale - max a.scale b.scale) (by decide : 0 < 10))
    omega
  have point : max a.scale b.scale ≤ maxScale := Nat.max_le.2 ⟨a.scale_le, b.scale_le⟩
  have sum : a.signed * Nat.pow 10 (max a.scale b.scale - a.scale) +
      b.signed * Nat.pow 10 (max a.scale b.scale - b.scale) = (sumDigits a b : Int) := by
    simp [signed, ha, hb, sumDigits]
  have above : decide ((sumDigits a b : Int) < 0) = false :=
    decide_eq_false (Int.not_lt.2 (Int.natCast_nonneg _))
  obtain ⟨d, made, coefficient, scale_eq, sign⟩ := @ofParts?_eq_some false _ _ digits point
  refine ⟨d, ?_, sign, scale_eq, ?_⟩
  · rw [add?, if_neg ha0, if_neg hb0]
    simp only []
    rw [sum, above, Int.natAbs_natCast, fit?_of_lt digits point]
    exact made
  · rw [coefficient, scale_eq, moved]

/-- A natural number in range, as a decimal number. -/
theorem exists_ofInt? {n : Nat} (h : n < limit) :
    ∃ d, ofInt? n = some d ∧ d.negative = false ∧ d.coefficient = n ∧ d.scale = 0 ∧
      d.value = n := by
  have sign : decide ((n : Int) < 0) = false := by simp
  rw [ofInt?, sign, Int.natAbs_natCast]
  obtain ⟨d, made, coefficient, scale, negative⟩ := @ofParts?_eq_some false _ 0 h (by decide)
  refine ⟨d, made, negative, coefficient, scale, ?_⟩
  rw [value, negative, coefficient, scale]
  simp [ratio]

end Decimal

end Turnstile
