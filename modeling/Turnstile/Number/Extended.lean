import Turnstile.Number.Shortest

/-!
Floating-point numbers of 64 bits with the two infinities and the value that is no number.
-/

namespace Turnstile

/-- A finite number, an infinity with its sign, or what is no number. -/
inductive Extended
  | finite (value : Double)
  | infinite (negative : Bool)
  | undefined
deriving DecidableEq

namespace Extended

/-- The number nearest to `± digits · 10 ^ exponent`; one that is out of range is infinite. -/
def ofScientific (negative : Bool) (digits : Nat) (exponent : Int) : Extended :=
  let place := (Text.digitCount digits : Int) + exponent
  if digits = 0 then .finite (.zero negative)
  else if 310 < place then .infinite negative
  else if place < -330 then .finite (.zero negative)
  else
    let num := digits * Nat.pow 10 exponent.toNat
    let den := Nat.pow 10 (-exponent).toNat
    (Double.ofRatio? negative num den).elim (.infinite negative) .finite

/-- The number of the other sign. -/
def neg : Extended → Extended
  | .finite d => .finite d.neg
  | .infinite negative => .infinite !negative
  | .undefined => .undefined

/-- The positional text of a number. -/
def text : Extended → String
  | .finite d => d.plainText
  | .infinite true => "-inf"
  | .infinite false => "inf"
  | .undefined => "NaN"

/-- The nearest natural number up to `greatest`; a half goes up, and what is no number is zero. -/
def toNat (greatest : Nat) : Extended → Nat
  | .finite d => min d.roundAway.toNat greatest
  | .infinite false => greatest
  | .infinite true | .undefined => 0

end Extended

end Turnstile
