import Turnstile.Number.Double
import Turnstile.Text.Numeral

/-!
The shortest decimal that reads back as a given floating-point number. Among the decimals of the
fewest digits inside the rounding interval the nearest is taken, of two equally near ones the even.
Positional notation is kept while the decimal point lies near the digits.
-/

namespace Turnstile

/-- A decimal number `digits · 10 ^ exponent`. -/
structure ShortDecimal where
  digits : Nat
  exponent : Int

namespace ShortDecimal

/-- Drops the trailing zeros of the digits, at most `fuel` of them. -/
def strip : Nat → ShortDecimal → ShortDecimal
  | 0, d => d
  | fuel + 1, d =>
    if d.digits ≠ 0 ∧ d.digits % 10 = 0 then strip fuel ⟨d.digits / 10, d.exponent + 1⟩ else d

end ShortDecimal

namespace Double

/-- The two ends of the interval of reals that round to a positive number, over a common
denominator, and whether the ends belong to it. -/
structure Interval where
  low : Nat
  value : Nat
  high : Nat
  den : Nat
  closed : Bool

/-- The rounding interval of a number: half way to its two neighbours, the ends included when the
significand is even. -/
def interval (d : Double) : Interval :=
  let unit := Nat.pow 2 d.exponent.toNat
  let den := 4 * Nat.pow 2 (-d.exponent).toNat
  let below := if d.significand = Nat.pow 2 52 ∧ d.exponent ≠ -1074 then 1 else 2
  { low := (4 * d.significand - below) * unit
    value := 4 * d.significand * unit
    high := (4 * d.significand + 2) * unit
    den := den
    closed := d.significand % 2 = 0 }

/-- Whether `n / scale` lies in the interval. -/
def Interval.holds (i : Interval) (n scale : Nat) : Bool :=
  if i.closed then i.low * scale ≤ n * i.den && n * i.den ≤ i.high * scale
  else i.low * scale < n * i.den && n * i.den < i.high * scale

/-- The power of ten of the first significant digit of `num / den`. -/
def leadingPower (num den : Nat) : Int :=
  if den ≤ num then (Text.digitCount (num / den) : Int) - 1
  else
    let shift := Text.digitCount den - Text.digitCount num
    if num * Nat.pow 10 shift < den then -((shift : Int) + 1) else -(shift : Int)

/-- The nearest decimal of `count` digits inside the interval, if there is one. -/
def Interval.nearest? (i : Interval) (count : Nat) : Option ShortDecimal :=
  let exponent := leadingPower i.value i.den - (count : Int) + 1
  let up := Nat.pow 10 exponent.toNat
  let down := Nat.pow 10 (-exponent).toNat
  let num := i.value * down
  let den := i.den * up
  let below := num / den
  let holds := fun n => i.holds (n * up) down
  let rest := 2 * (num % den)
  let nearer := if rest < den ∨ (rest = den ∧ below % 2 = 0) then below else below + 1
  let farther := if nearer = below then below + 1 else below
  if holds nearer then some ⟨nearer, exponent⟩
  else if holds farther then some ⟨farther, exponent⟩
  else none

/-- The first grid of one to `seventeen` digits on which the interval has a point. -/
def Interval.search (i : Interval) : Nat → Nat → ShortDecimal
  | 0, count => (i.nearest? count).getD ⟨0, 0⟩
  | more + 1, count =>
    match i.nearest? count with
    | some d => d
    | none => i.search more (count + 1)

/-- The shortest decimal that reads back as the magnitude of a number. -/
def shortest (d : Double) : ShortDecimal :=
  if d.isZero then ⟨0, 0⟩ else (d.interval.search 16 1).strip 400

/-- A run of zeros. -/
def zeros (n : Nat) : List Char := List.replicate n '0'

/-- The positional notation of a decimal; an integer has no point. -/
def positional (d : ShortDecimal) : List Char :=
  let digits := Text.decimalDigits d.digits
  let point := (digits.length : Int) + d.exponent
  if 0 ≤ d.exponent then digits ++ zeros d.exponent.toNat
  else if 0 < point then digits.take point.toNat ++ '.' :: digits.drop point.toNat
  else '0' :: '.' :: zeros (-point).toNat ++ digits

/-- The notation with one digit before the point and an exponent that carries its sign. -/
def scientific (d : ShortDecimal) : List Char :=
  let digits := Text.decimalDigits d.digits
  let exponent := (digits.length : Int) + d.exponent - 1
  let sign := if exponent < 0 then '-' else '+'
  let fraction := if digits.length = 1 then [] else '.' :: digits.drop 1
  digits.take 1 ++ fraction ++ 'e' :: sign :: Text.decimalDigits exponent.natAbs

/-- The sign of a number as written. -/
def signText (d : Double) : List Char := if d.negative then ['-'] else []

/-- The positional text of a number: no exponent, and no point in an integer. -/
def plainText (d : Double) : String := .ofList (d.signText ++ positional d.shortest)

/-- The text of a number in a JSON document: positional with a digit after the point when its first
digit stands between the fifth place after the point and the sixteenth before it, else scientific.
-/
def text (d : Double) : String :=
  let short := d.shortest
  let place := (Text.digitCount short.digits : Int) + short.exponent
  let body :=
    if short.digits = 0 then ['0', '.', '0']
    else if -5 < place ∧ place ≤ 16 then
      positional short ++ (if 0 ≤ short.exponent then ['.', '0'] else [])
    else scientific short
  .ofList (d.signText ++ body)

end Double

end Turnstile
