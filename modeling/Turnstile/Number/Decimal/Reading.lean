import Turnstile.Number.Decimal
import Turnstile.Number.Shortest

/-!
Reading of decimal numbers from text and from the numbers of a JSON document. Positional notation is
tried first and scientific notation after it. Digits that do not fit any more are cut: the first of
them decides the rounding, and what follows it may be digits only. Underscores between digits are
passed over.
-/

namespace Turnstile.Decimal

/-! ## Positional notation -/

/-- What has been read of a number in positional notation. -/
structure Digits where
  negative : Bool
  afterPoint : Bool
  coefficient : Nat
  scale : Nat

namespace Digits

/-- The number that the digits read so far make. One place too many after the point wraps around to
no place at all. -/
def finish? (d : Digits) : Option Decimal :=
  ofParts? d.negative d.coefficient (d.scale % (maxScale + 1))

/-- The state behind one more digit. -/
def push (d : Digits) (digit : Nat) : Digits :=
  { d with
    coefficient := d.coefficient * 10 + digit
    scale := if d.afterPoint then d.scale + 1 else d.scale }

/-- Whether there is no place left for a digit after the point. -/
def full (d : Digits) : Bool := d.afterPoint && maxScale ≤ d.scale

/-- Whether a text holds nothing but digits and underscores. -/
def onlyDigits (cs : List Char) : Bool := cs.all fun c => c = '_' || (Text.digitValue? c).isSome

/-- Rounds by the first character that does not fit: a digit of five or more rounds up, and an
underscore stands for a zero. A coefficient that overflows by that gives up its last digit. -/
def round? (d : Digits) : List Char → Option Decimal
  | [] => d.finish?
  | next :: rest =>
    (if next = '_' then some 0 else Text.digitValue? next).bind fun digit =>
      if !onlyDigits rest then none
      else if digit < 5 then d.finish?
      else if d.coefficient + 1 < limit then { d with coefficient := d.coefficient + 1 }.finish?
      else if d.scale = 0 then none
      else
        { d with coefficient := (d.coefficient + 5) / 10, scale := d.scale - 1 }.finish?

/-- Reads on with a long coefficient: digits go on as long as they fit. An underscore behind the
last place is passed over, and the digit behind it is taken into the coefficient if it fits there.
-/
def readLong? (d : Digits) : List Char → Option Decimal
  | [] => d.finish?
  | c :: rest =>
    match Text.digitValue? c with
    | some digit =>
      if limit ≤ (d.push digit).coefficient then
        if d.afterPoint then d.round? (c :: rest) else none
      else if (d.push digit).full && rest.head? ≠ some '_' then (d.push digit).round? rest
      else (d.push digit).readLong? rest
    | none =>
      if c = '.' ∧ !d.afterPoint then { d with afterPoint := true }.readLong? rest
      else if c = '_' then d.readLong? rest
      else none

/-- The coefficient from which on a coefficient counts as long. -/
def longFrom : Nat := 1844674407370954906

/-- Reads digits with at most one point; `started` says whether there has been a digit, which an
underscore needs before it. -/
def read? (d : Digits) (started : Bool) : List Char → Option Decimal
  | [] => if started then d.finish? else none
  | c :: rest =>
    match Text.digitValue? c with
    | some digit =>
      if (d.push digit).full then (d.push digit).round? rest
      else if longFrom ≤ (d.push digit).coefficient then (d.push digit).readLong? rest
      else (d.push digit).read? true rest
    | none =>
      if c = '.' ∧ !d.afterPoint then { d with afterPoint := true }.read? started rest
      else if c = '_' ∧ started then d.read? true rest
      else none

end Digits

/-- A number in positional notation, with an optional sign. -/
def readPositional? (cs : List Char) : Option Decimal :=
  match cs with
  | '-' :: rest => Digits.read? ⟨true, false, 0, 0⟩ false rest
  | '+' :: rest => Digits.read? ⟨false, false, 0, 0⟩ false rest
  | _ => Digits.read? ⟨false, false, 0, 0⟩ false cs

/-! ## Scientific notation -/

/-- Multiplies by a power of ten, nineteen places at a time. -/
def shiftLeft? (d : Decimal) (places : Nat) : Option Decimal :=
  if places ≤ 19 then (ofParts? false (Nat.pow 10 places) 0).bind d.mul?
  else (ofParts? false (Nat.pow 10 19) 0).bind d.mul? |>.bind fun shifted =>
    (ofParts? false (Nat.pow 10 (places - 19)) 0).bind shifted.mul?

/-- Moves the point to the left. Digits that come to stand behind the last place are cut. -/
def shiftRight? (d : Decimal) (places : Nat) : Option Decimal :=
  if maxScale < places then none
  else (d.cutTo (maxScale - places)).withScale? (min (d.scale + places) maxScale)

/-- A positional number followed by `e` and an exponent. A negative exponent and one up to the scale
move the point; a larger one multiplies, and trailing zeros after the point are dropped then. -/
def readScientific? (cs : List Char) : Option Decimal :=
  let isMark := fun c => c = 'e' || c = 'E'
  match cs.dropWhile (!isMark ·) with
  | [] => none
  | _ :: exponent =>
    (readPositional? (cs.takeWhile (!isMark ·))).bind fun base =>
      match exponent with
      | '-' :: digits =>
        (Text.readBelow? (Nat.pow 2 32) (.ofList digits)).bind base.shiftRight?
      | digits =>
        (Text.readBelow? (Nat.pow 2 32) (.ofList digits)).bind fun places =>
          if places ≤ base.scale then base.withScale? (base.scale - places)
          else if maxScale < places then none
          else (base.shiftLeft? places).map normalize

/-- The number that a text writes in positional or in scientific notation. -/
def read? (s : String) : Option Decimal :=
  readPositional? s.toList <|> readScientific? s.toList

/-- The number that the shortest text of a floating-point number writes. -/
def ofDouble? (d : Double) : Option Decimal := readPositional? d.plainText.toList

end Turnstile.Decimal
