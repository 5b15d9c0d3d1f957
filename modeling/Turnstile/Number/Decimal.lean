import Turnstile.Number.Rounding
import Turnstile.Text.Numeral

/-!
Decimal numbers of 96 bits: a coefficient below `2 ^ 96` and a scale, the number of digits after the
point, of at most 28. Products and sums keep their scale; one that does not fit loses its last
digits, rounded to the nearest, a half going to the even neighbour. Main statement: what fits is not
rounded (`fit?_of_lt`).
-/

namespace Turnstile

/-- The number `± coefficient / 10 ^ scale`. A zero with a minus sign is left over where the digits
of a negative number are cut; it is written with its sign, and is neither positive nor negative. -/
structure Decimal where
  negative : Bool
  coefficient : Nat
  scale : Nat
  coefficient_lt : coefficient < Nat.pow 2 96
  scale_le : scale ≤ 28
deriving DecidableEq

namespace Decimal

/-! ## Algorithm -/

/-- The first coefficient that is too large. -/
def limit : Nat := Nat.pow 2 96

/-- The largest scale. -/
def maxScale : Nat := 28

/-- The number with the given parts, if they are in range. Zero is made without a sign. -/
def ofParts? (negative : Bool) (coefficient scale : Nat) : Option Decimal :=
  if h : coefficient < Nat.pow 2 96 ∧ scale ≤ 28 then
    some ⟨negative && coefficient ≠ 0, coefficient, scale, h.1, h.2⟩
  else none

/-- The number with an integer coefficient. -/
def ofInt? (i : Int) : Option Decimal := ofParts? (i < 0) i.natAbs 0

/-- Zero without digits after the point. -/
def zero : Decimal := ⟨false, 0, 0, by decide, by decide⟩

/-- The coefficient with its sign. -/
def signed (d : Decimal) : Int := if d.negative then -(d.coefficient : Int) else d.coefficient

/-- The least number of digits, at most `fuel`, whose removal brings a coefficient below the limit.
-/
def excess : Nat → Nat → Nat
  | 0, _ => 0
  | fuel + 1, coefficient =>
    if coefficient < limit then 0 else excess fuel (coefficient / 10) + 1

/-- The number with at most the given coefficient and scale, rounded to as many digits as fit;
`none` when the integer part alone does not fit. -/
def fit? (negative : Bool) (coefficient scale : Nat) : Option Decimal :=
  let drop := max (excess coefficient coefficient) (scale - maxScale)
  if scale < drop then none
  else
    let rounded := roundDiv coefficient (Nat.pow 10 drop)
    if rounded < limit then ofParts? negative rounded (scale - drop)
    else if scale < drop + 1 then none
    else ofParts? negative (roundDiv coefficient (Nat.pow 10 (drop + 1))) (scale - (drop + 1))

/-- The product; the scales are added, and a product with zero has scale zero. -/
def mul? (a b : Decimal) : Option Decimal :=
  if a.coefficient = 0 ∨ b.coefficient = 0 then some zero
  else fit? (a.negative != b.negative) (a.coefficient * b.coefficient) (a.scale + b.scale)

/-- The sum, at the larger of the two scales; a sum with zero is the other number as it is. -/
def add? (a b : Decimal) : Option Decimal :=
  if a.coefficient = 0 then some b
  else if b.coefficient = 0 then some a
  else
    let scale := max a.scale b.scale
    let sum := a.signed * Nat.pow 10 (scale - a.scale) + b.signed * Nat.pow 10 (scale - b.scale)
    fit? (sum < 0) sum.natAbs scale

/-- Whether the number is below zero. -/
def isNegative (d : Decimal) : Bool := d.negative && d.coefficient ≠ 0

/-- Whether the number is above zero. -/
def isPositive (d : Decimal) : Bool := !d.negative && d.coefficient ≠ 0

/-- The number with its point moved, if the new scale is in range: the digits and the sign stay. -/
def withScale? (d : Decimal) (scale : Nat) : Option Decimal :=
  if h : scale ≤ 28 then some { d with scale := scale, scale_le := h } else none

/-- The coefficient without its last `places` digits; the first digit that goes decides the
rounding, and a five rounds up. -/
def cut (coefficient places : Nat) : Nat :=
  (coefficient + Nat.pow 10 places / 2) / Nat.pow 10 places

theorem cut_le (coefficient places : Nat) : cut coefficient places ≤ coefficient := by
  have pos : 0 < Nat.pow 10 places := Nat.pow_pos (by decide)
  cases places with
  | zero => simp [cut]
  | succ places =>
    refine Nat.le_of_lt_succ ((Nat.div_lt_iff_lt_mul pos).2 ?_)
    have : 10 ≤ Nat.pow 10 (places + 1) := by
      have : 0 < Nat.pow 10 places := Nat.pow_pos (by decide)
      simp only [Nat.pow_eq, Nat.pow_succ] at *
      omega
    generalize Nat.pow 10 (places + 1) = den at *
    have : den / 2 + coefficient ≤ den / 2 + coefficient * 2 := by omega
    have : coefficient.succ * den = coefficient * den + den := Nat.succ_mul ..
    have : coefficient * 10 ≤ coefficient * den := Nat.mul_le_mul_left _ ‹10 ≤ den›
    omega

/-- The number with at most `places` digits after the point. The sign stays, also on a zero. -/
def cutTo (d : Decimal) (places : Nat) : Decimal :=
  { d with
    coefficient := cut d.coefficient (d.scale - places)
    scale := min d.scale places
    coefficient_lt := Nat.lt_of_le_of_lt (cut_le _ _) d.coefficient_lt
    scale_le := Nat.le_trans (Nat.min_le_left _ _) d.scale_le }

/-- Drops the zeros at the end of the digits after the point. -/
def normalize (d : Decimal) : Decimal :=
  let rec go : Nat → Nat → Nat × Nat
    | 0, coefficient => (coefficient, 0)
    | scale + 1, coefficient =>
      if coefficient % 10 = 0 then go scale (coefficient / 10) else (coefficient, scale + 1)
  let (coefficient, scale) := go d.scale d.coefficient
  (ofParts? d.negative coefficient scale).getD d

/-- The text of a number: sign, integer part and exactly as many digits after the point as the scale
says. -/
def text (d : Decimal) : String :=
  let whole := Text.decimalDigits (d.coefficient / Nat.pow 10 d.scale)
  let fraction := if d.scale = 0 then [] else '.' :: Text.paddedDigits d.scale d.coefficient
  .ofList ((if d.negative then ['-'] else []) ++ whole ++ fraction)

/-! ## Lemmas -/

theorem ofParts?_eq_some {negative : Bool} {coefficient scale : Nat}
    (hc : coefficient < Nat.pow 2 96) (hs : scale ≤ 28) :
    ∃ d, ofParts? negative coefficient scale = some d ∧ d.coefficient = coefficient ∧
      d.scale = scale ∧ d.negative = (negative && decide (coefficient ≠ 0)) :=
  ⟨_, dif_pos ⟨hc, hs⟩, rfl, rfl, rfl⟩

@[simp]
theorem excess_of_lt {fuel coefficient : Nat} (h : coefficient < limit) :
    excess fuel coefficient = 0 := by
  cases fuel <;> simp [excess, h]

/-- A coefficient and a scale in range are kept as they are. -/
theorem fit?_of_lt {negative : Bool} {coefficient scale : Nat} (hc : coefficient < limit)
    (hs : scale ≤ maxScale) :
    fit? negative coefficient scale = ofParts? negative coefficient scale := by
  have drop : max (excess coefficient coefficient) (scale - maxScale) = 0 := by
    simp [excess_of_lt hc]
    omega
  have round : roundDiv coefficient 1 = coefficient := by
    simpa using roundDiv_mul_right coefficient Nat.one_pos
  simp only [fit?, drop, round, hc, Nat.not_lt_zero, if_false, if_true, Nat.sub_zero]

end Decimal

end Turnstile
