import Turnstile.Settings.Toml.Word
import Turnstile.Settings.Value
import Turnstile.Time.Calendar

/-!
The scalars of settings files: truth values, integers of 64 bits in four bases, floating-point
numbers, and dates and times, which are given as texts.
-/

namespace Turnstile.Toml

open Text Text.Reader

/-! ## Numbers -/

/-- A sign, which may be missing: whether it is a minus sign. -/
def sign : Reader Bool := do
  match ← optional? (one fun c => c = '+' || c = '-') with
  | some c => return c = '-'
  | none => return false

/-- Digits in a base with single underscores between them. -/
def digits (base : Nat) : Reader (List Char) := do
  let digit := one fun c => (digitBelow? base c).isSome
  let first ← digit
  return first :: (← many (digit <|> char '_' *> digit))

/-- Decimal digits without a leading zero. -/
def whole : Reader (List Char) :=
  (do char '0'; return ['0']) <|> digits 10

/-- The number of digits in a base. -/
def digitsIn (base : Nat) (cs : List Char) : Nat :=
  cs.foldl (fun n c => n * base + (hexValue? c).getD 0) 0

/-- An integer of 64 bits. -/
def integerOf (i : Int) : Reader Setting :=
  if -(Nat.pow 2 63 : Int) ≤ i ∧ i < (Nat.pow 2 63 : Int) then return .int i else failure

/-- An integer in base sixteen, eight or two, which has no sign. -/
def basedInteger : Reader Setting := do
  char '0'
  let base ← match ← next with
    | 'x' => pure 16
    | 'o' => pure 8
    | 'b' => pure 2
    | _ => failure
  integerOf (digitsIn base (← digits base))

/-- A decimal integer. -/
def integer : Reader Setting := do
  let negative ← sign
  let n := digitsValue (← whole)
  integerOf (if negative then -(n : Int) else n)

/-- What stands behind the mark of an exponent. -/
def exponent : Reader Int := do
  let _ ← one fun c => c = 'e' || c = 'E'
  let negative ← sign
  let n := digitsValue (← digits 10)
  return if negative then -(n : Int) else n

/-- The digits behind a point. -/
def fraction : Reader (List Char) := char '.' *> digits 10

/-- A floating-point number with a fraction, an exponent, or both. One that is too large is refused,
but one that is too small below zero is infinite. -/
def float : Reader Setting := do
  let negative ← sign
  let whole ← whole
  let fraction? ← optional? fraction
  let exponent? ← optional? exponent
  if fraction?.isNone && exponent?.isNone then failure
  let fraction := fraction?.getD []
  match Extended.ofScientific negative (digitsValue (whole ++ fraction))
    (exponent?.getD 0 - fraction.length) with
  | .infinite false => failure
  | x => return .real x

/-- An infinity, or what is no number. -/
def specialFloat : Reader Setting := do
  let negative ← sign
  (do word "inf".toList; return .real (.infinite negative)) <|>
    (do word "nan".toList; return .real .undefined)

/-! ## Dates and times -/

/-- A number of exactly `count` digits between two bounds. -/
def field (count low high : Nat) : Reader Nat := do
  let n := digitsValue (← exactly count isDigit)
  if low ≤ n ∧ n ≤ high then return n else failure

/-- A field as written. -/
def twoDigits (n : Nat) : List Char := paddedDigits 2 n

/-- The text of a day of the calendar. -/
def date : Reader (List Char) := do
  let year ← field 4 0 9999
  char '-'
  let month ← field 2 1 12
  char '-'
  let day ← field 2 1 31
  if Calendar.monthLength year month < day then failure
  return paddedDigits 4 year ++ '-' :: twoDigits month ++ '-' :: twoDigits day

/-- The digits of a fraction of a second as written: nine at most, without the zeros at their end.
-/
def fractionOfSecond (cs : List Char) : List Char :=
  let kept := ((cs.take 9).reverse.dropWhile (· = '0')).reverse
  if kept.isEmpty then [] else '.' :: kept

/-- The text of a time of day. -/
def time : Reader (List Char) := do
  let hour ← field 2 0 23
  char ':'
  let minute ← field 2 0 59
  char ':'
  let second ← field 2 0 60
  let fraction? ← optional? (char '.' *> span1 isDigit)
  return twoDigits hour ++ ':' :: twoDigits minute ++ ':' :: twoDigits second ++
    fractionOfSecond (fraction?.getD [])

/-- An offset from universal time as written. -/
def offsetText (negative : Bool) (hour minute : Nat) : List Char :=
  (if negative && (hour ≠ 0 || minute ≠ 0) then '-' else '+') ::
    twoDigits hour ++ ':' :: twoDigits minute

/-- The text of an offset from universal time. -/
def offset : Reader (List Char) :=
  (do let _ ← one fun c => c = 'Z' || c = 'z'; return ['Z']) <|> do
    let c ← one fun c => c = '+' || c = '-'
    let hour ← field 2 0 23
    char ':'
    let minute ← field 2 0 59
    return offsetText (c = '-') hour minute

/-- The text of a time of day behind a date, with an offset that may be missing. -/
def timeBehindDate : Reader (List Char) := do
  let _ ← one fun c => c = 'T' || c = 't' || c = ' '
  let time ← time
  return 'T' :: time ++ (← optional? offset).getD []

/-- A date, a time, or both, as a text. -/
def moment : Reader Setting := do
  let cs ← (do return (← date) ++ (← optional? timeBehindDate).getD []) <|> time
  return .text (.ofList cs)

/-! ## Scalars -/

/-- A truth value. -/
def flag : Reader Setting :=
  (do word "true".toList; return .flag true) <|> (do word "false".toList; return .flag false)

/-- A scalar that is no text. -/
def scalar : Reader Setting :=
  moment <|> float <|> basedInteger <|> integer <|> specialFloat <|> flag

end Turnstile.Toml
