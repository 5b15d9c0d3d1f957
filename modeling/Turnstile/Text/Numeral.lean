/-!
Decimal numerals. A number is written with the fewest digits; a numeral is read within a range, with
an optional sign in front and nothing else around its digits.
-/

namespace Turnstile.Text

/-! ## Digits -/

/-- The number that a decimal digit stands for. -/
def digitValue? (c : Char) : Option Nat :=
  if '0' ≤ c ∧ c ≤ '9' then some (c.toNat - 48) else none

/-- Whether a character is one of the ten decimal digits. -/
def isDigit (c : Char) : Bool := (digitValue? c).isSome

/-- The decimal digit of a number below ten. -/
def digitChar (n : Nat) : Char := Char.ofNat (48 + n)

/-- The last `width` decimal digits of a number, with leading zeros. -/
def paddedDigits : Nat → Nat → List Char
  | 0, _ => []
  | width + 1, n => paddedDigits width (n / 10) ++ [digitChar (n % 10)]

/-- The decimal digits of a number without leading zeros; zero has one digit. -/
def decimalDigits (n : Nat) : List Char :=
  if n < 10 then [digitChar n] else decimalDigits (n / 10) ++ [digitChar (n % 10)]
termination_by n

/-- The number of decimal digits of a number; one for zero. -/
def digitCount (n : Nat) : Nat := (decimalDigits n).length

/-- The number that a list of digits stands for, starting from a value already read. -/
def digitsFrom (start : Nat) (cs : List Char) : Nat :=
  cs.foldl (fun n c => n * 10 + (c.toNat - 48)) start

/-- The number that a list of digits stands for. -/
def digitsValue (cs : List Char) : Nat := digitsFrom 0 cs

/-! ## Writing -/

/-- The numeral of a natural number. -/
def writeNat (n : Nat) : String := .ofList (decimalDigits n)

/-- The numeral of an integer, with a minus sign in front of a negative one. -/
def writeInt (i : Int) : String :=
  if i < 0 then "-" ++ writeNat i.natAbs else writeNat i.natAbs

/-! ## Reading -/

/-- The number written by a non-empty list of digits and nothing else. -/
def readDigits? (cs : List Char) : Option Nat :=
  if cs.isEmpty || !cs.all isDigit then none else some (digitsValue cs)

/-- A numeral below `bound`, with an optional plus sign. -/
def readBelow? (bound : Nat) (s : String) : Option Nat :=
  let digits := match s.toList with
    | '+' :: cs => cs
    | cs => cs
  (readDigits? digits).filter (· < bound)

/-- A signed numeral of `bits` bits, with an optional sign. -/
def readSigned? (bits : Nat) (s : String) : Option Int :=
  let value := match s.toList with
    | '-' :: cs => (readDigits? cs).map fun n => -(n : Int)
    | '+' :: cs => (readDigits? cs).map fun n => (n : Int)
    | cs => (readDigits? cs).map fun n => (n : Int)
  value.filter fun i => -(Nat.pow 2 (bits - 1) : Int) ≤ i ∧ i < (Nat.pow 2 (bits - 1) : Int)

/-- The parts of a decimal number: whether it is negative, its digits and its power of ten. -/
def decimalParts? (cs : List Char) : Option (Bool × Nat × Int) :=
  let (negative, cs) : Bool × List Char := match cs with
    | '-' :: cs => (true, cs)
    | '+' :: cs => (false, cs)
    | cs => (false, cs)
  let whole := cs.takeWhile isDigit
  let (fraction, cs) : List Char × List Char := match cs.dropWhile isDigit with
    | '.' :: cs => (cs.takeWhile isDigit, cs.dropWhile isDigit)
    | cs => ([], cs)
  let exponent? : Option Int := match cs with
    | [] => some 0
    | c :: cs => if c = 'e' ∨ c = 'E' then
        match cs with
        | '-' :: cs => (readDigits? cs).map fun n => -(n : Int)
        | '+' :: cs => (readDigits? cs).map fun n => (n : Int)
        | cs => (readDigits? cs).map fun n => (n : Int)
      else none
  if (whole ++ fraction).isEmpty then none
  else exponent?.map fun e => (negative, digitsValue (whole ++ fraction), e - fraction.length)

/-! ## Lemmas -/

@[simp]
theorem length_paddedDigits (width n : Nat) : (paddedDigits width n).length = width := by
  induction width generalizing n with
  | zero => rfl
  | succ width ih => simp [paddedDigits, ih]

theorem digitValue?_digitChar {n : Nat} (h : n < 10) : digitValue? (digitChar n) = some n := by
  have all : ∀ m : Fin 10, digitValue? (digitChar m) = some m.val := by decide
  exact all ⟨n, h⟩

theorem toNat_digitChar {n : Nat} (h : n < 10) : (digitChar n).toNat = 48 + n := by
  have all : ∀ m : Fin 10, (digitChar m).toNat = 48 + m.val := by decide
  exact all ⟨n, h⟩

theorem isDigit_digitChar {n : Nat} (h : n < 10) : isDigit (digitChar n) = true := by
  simp [isDigit, digitValue?_digitChar h]

/-- The digits of a number are decimal digits. -/
theorem all_isDigit_decimalDigits (n : Nat) : (decimalDigits n).all isDigit = true := by
  induction n using Nat.strongRecOn with
  | _ n ih =>
    rw [decimalDigits]
    split
    · next h => simp [isDigit_digitChar h]
    · next h =>
      simp only [List.all_append, ih (n / 10) (by omega), List.all_cons, List.all_nil,
        isDigit_digitChar (Nat.mod_lt n (show 0 < 10 by decide)), Bool.and_true]

/-- The digits of a number read back as the number. -/
@[simp]
theorem digitsValue_decimalDigits (n : Nat) : digitsValue (decimalDigits n) = n := by
  induction n using Nat.strongRecOn with
  | _ n ih =>
    rw [decimalDigits]
    split
    · next h => simp [digitsValue, digitsFrom, toNat_digitChar h]
    · next h =>
      have previous := ih (n / 10) (by omega)
      unfold digitsValue digitsFrom at previous ⊢
      rw [List.foldl_append, previous]
      simp only [List.foldl_cons, List.foldl_nil,
        toNat_digitChar (Nat.mod_lt n (show 0 < 10 by decide))]
      omega

/-- A number has at least one digit. -/
theorem decimalDigits_ne_nil (n : Nat) : decimalDigits n ≠ [] := by
  rw [decimalDigits]
  split <;> simp

/-- The numeral of a number reads back as the number. -/
theorem readDigits?_decimalDigits (n : Nat) : readDigits? (decimalDigits n) = some n := by
  simp [readDigits?, all_isDigit_decimalDigits, decimalDigits_ne_nil, List.isEmpty_iff]

end Turnstile.Text
