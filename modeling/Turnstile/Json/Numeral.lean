import Turnstile.Json.Basic
import Turnstile.Text.Numeral

/-!
Numbers of JSON documents. A numeral without fraction and exponent that fits 64 bits is an integer;
any other is a floating-point number. Its digits are gathered into a significand of 64 bits, and the
power of ten is applied in one rounded step, so the last bit can differ from the nearest number.
-/

namespace Turnstile.Json

/-- A numeral by its parts: the digits before and after the point, and the exponent. -/
structure Numeral where
  negative : Bool
  whole : List Char
  fraction : List Char
  exponent : Option (Bool × List Char)

namespace Numeral

/-- The first significand that is too large. -/
def significandLimit : Nat := Nat.pow 2 64

/-- The first exponent that is not read exactly. -/
def exponentLimit : Nat := Nat.pow 2 31

/-- Appends digits to a significand while it stays below its limit; the digits that are left over
are returned with it. -/
def gather (significand : Nat) : List Char → Nat × List Char
  | [] => (significand, [])
  | c :: rest =>
    let next := significand * 10 + (c.toNat - 48)
    if next < significandLimit then gather next rest else (significand, c :: rest)

/-- Applies a power of ten: by one product or quotient when it is at most 308, else by quotients of
`10 ^ 308` as long as something is left. `none` when the result is out of range. -/
def applyPower (d : Double) (exponent : Int) : Option Double :=
  if exponent.natAbs ≤ 308 then
    (Double.tenPow? exponent.natAbs).bind fun power =>
      if 0 ≤ exponent then d.mul? power else d.div? power
  else if d.isZero then some d
  else if 0 ≤ exponent then none
  else
    ((Double.tenPow? 308).bind d.div?).bind fun quotient => applyPower quotient (exponent + 308)
termination_by exponent.natAbs
decreasing_by omega

/-- The floating-point number of a significand and a power of ten. -/
def double? (negative : Bool) (significand : Nat) (exponent : Int) : Option Double :=
  ((Double.ofRatio? false significand 1).bind (applyPower · exponent)).map fun d =>
    if negative then d.neg else d

/-- The number of a numeral; `none` when it is out of range. -/
def number? (n : Numeral) : Option Number :=
  let (significand, cut) := gather 0 n.whole
  if n.fraction.isEmpty && n.exponent.isNone && cut.isEmpty then
    if !n.negative then some (.int significand)
    else if significand ≠ 0 ∧ significand ≤ Nat.pow 2 63 then some (.int (-(significand : Int)))
    else (double? true significand 0).map .double
  else
    let (total, _) := gather significand n.fraction
    let used := n.fraction.length - (gather significand n.fraction).2.length
    let base : Int := cut.length - used
    match n.exponent with
    | none => (double? n.negative total base).map .double
    | some (below, digits) =>
      let exponent := Text.digitsValue digits
      if exponent < exponentLimit then
        let power := if below then base - exponent else base + exponent
        (double? n.negative total power).map .double
      else if total ≠ 0 ∧ !below then none
      else some (.double (.zero n.negative))

end Numeral

end Turnstile.Json
