import Turnstile.Number.Rounding

/-!
Finite binary floating-point numbers of 64 bits, as a sign, a significand and a power of two. Every
number has one form. Sums are not needed; products, quotients and ratios are rounded to the nearest
number, a half going to the even significand.
-/

namespace Turnstile

/-- A finite number of the form `± significand · 2 ^ exponent` with at most 53 significant bits; the
significand uses all of them unless the exponent is the least one. -/
structure Double where
  negative : Bool
  significand : Nat
  exponent : Int
  significand_lt : significand < Nat.pow 2 53
  least_le : -1074 ≤ exponent
  le_greatest : exponent ≤ 971
  canonical : Nat.pow 2 52 ≤ significand ∨ exponent = -1074
deriving DecidableEq

namespace Double

/-! ## Construction -/

/-- The number with the given parts, if they are in canonical form. -/
def ofParts? (negative : Bool) (significand : Nat) (exponent : Int) : Option Double :=
  if h : significand < Nat.pow 2 53 ∧ -1074 ≤ exponent ∧ exponent ≤ 971 ∧
      (Nat.pow 2 52 ≤ significand ∨ exponent = -1074) then
    some ⟨negative, significand, exponent, h.1, h.2.1, h.2.2.1, h.2.2.2⟩
  else none

/-- Zero with a sign. -/
def zero (negative : Bool) : Double :=
  ⟨negative, 0, -1074, by decide, by decide, by decide, .inr rfl⟩

/-- A numerator and a denominator of `num / den · 2 ^ (-exponent)`. -/
def scaled (num den : Nat) (exponent : Int) : Nat × Nat :=
  (num * Nat.pow 2 (-exponent).toNat, den * Nat.pow 2 exponent.toNat)

/-- The exponent at which the significand of `num / den` has 53 bits, or the least exponent. -/
def exponentOf (num den : Nat) : Int :=
  let high := (Nat.log2 num : Int) - Nat.log2 den - 52
  let (n, d) := scaled num den high
  max (-1074) (if n < d * Nat.pow 2 52 then high - 1 else high)

/-- The number nearest to `± num / den`; `none` when that is out of range. -/
def ofRatio? (negative : Bool) (num den : Nat) : Option Double :=
  if num = 0 then some (zero negative)
  else
    let exponent := exponentOf num den
    let (n, d) := scaled num den exponent
    let significand := roundDiv n d
    if significand = Nat.pow 2 53 then ofParts? negative (Nat.pow 2 52) (exponent + 1)
    else ofParts? negative significand exponent

/-- The number nearest to an integer. -/
def ofInt? (i : Int) : Option Double := ofRatio? (i < 0) i.natAbs 1

/-! ## Arithmetic -/

/-- The magnitude as a numerator and a denominator. -/
def ratio (d : Double) : Nat × Nat :=
  (d.significand * Nat.pow 2 d.exponent.toNat, Nat.pow 2 (-d.exponent).toNat)

/-- Whether the number is one of the two zeros. -/
def isZero (d : Double) : Bool := d.significand = 0

/-- The number of the other sign. -/
def neg (d : Double) : Double := { d with negative := !d.negative }

/-- The rounded product; `none` when it is out of range. -/
def mul? (a b : Double) : Option Double :=
  let (an, ad) := a.ratio
  let (bn, bd) := b.ratio
  ofRatio? (a.negative != b.negative) (an * bn) (ad * bd)

/-- The rounded quotient; `none` when it is out of range or the divisor is zero. -/
def div? (a b : Double) : Option Double :=
  let (an, ad) := a.ratio
  let (bn, bd) := b.ratio
  if bn = 0 then none else ofRatio? (a.negative != b.negative) (an * bd) (ad * bn)

/-- The number nearest to a power of ten. -/
def tenPow? (n : Nat) : Option Double := ofRatio? false (Nat.pow 10 n) 1

/-- The integer nearest to the number; a half goes away from zero. -/
def roundAway (d : Double) : Int :=
  let (n, den) := d.ratio
  let magnitude := (2 * n + den) / (2 * den)
  if d.negative then -(magnitude : Int) else (magnitude : Int)

end Double

end Turnstile
