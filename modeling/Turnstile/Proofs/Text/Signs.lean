import Turnstile.Text.Numeral

/-!
Numerals with signs. Main statements: the texts that are read as a natural number below a bound are
its numerals with an optional plus sign (`readBelow?_eq_some_iff`), and those that are read as an
integer of so many bits are its numerals with an optional sign (`readSigned?_eq_some_iff`).
-/

namespace Turnstile.Text

/-- Digits that stand for a number, with any number of zeros in front. -/
structure Digits (cs : List Char) (n : Nat) : Prop where
  nonempty : cs ≠ []
  digits : ∀ c ∈ cs, isDigit c = true
  value : digitsValue cs = n

/-- A numeral of a natural number: digits, with an optional plus sign in front. -/
inductive Unsigned : List Char → Nat → Prop
  | plain {cs : List Char} {n : Nat} (h : Digits cs n) : Unsigned cs n
  | plus {cs : List Char} {n : Nat} (h : Digits cs n) : Unsigned ('+' :: cs) n

/-- A numeral of an integer: digits, with an optional sign in front. -/
inductive Signed : List Char → Int → Prop
  | plain {cs : List Char} {n : Nat} (h : Digits cs n) : Signed cs n
  | plus {cs : List Char} {n : Nat} (h : Digits cs n) : Signed ('+' :: cs) n
  | minus {cs : List Char} {n : Nat} (h : Digits cs n) : Signed ('-' :: cs) (-(n : Int))

variable {cs : List Char} {n : Nat} {i : Int} {s : String}

theorem readDigits?_eq_some_iff : readDigits? cs = some n ↔ Digits cs n := by
  unfold readDigits?
  split
  · rename_i refused
    rw [Bool.or_eq_true, List.isEmpty_iff, Bool.not_eq_true', List.all_eq_false] at refused
    constructor
    · intro h
      cases h
    · rintro ⟨nonempty, digits, -⟩
      rcases refused with none | ⟨c, mem, other⟩
      · exact absurd none nonempty
      · exact absurd (digits c mem) other
  · rename_i accepted
    rw [Bool.not_eq_true, Bool.or_eq_false_iff, Bool.not_eq_false', List.all_eq_true,
      List.isEmpty_eq_false_iff] at accepted
    constructor
    · intro h
      exact ⟨accepted.1, accepted.2, Option.some.inj h⟩
    · rintro ⟨-, -, value⟩
      exact congrArg some value

/-- A sign is no digit. -/
theorem not_digits_cons {c : Char} (sign : isDigit c = false) : ¬Digits (c :: cs) n := by
  intro h
  have digit := h.digits c List.mem_cons_self
  rw [sign] at digit
  cases digit

theorem unsigned_plus_iff : Unsigned ('+' :: cs) n ↔ Digits cs n := by
  constructor
  · intro h
    cases h with
    | plain h => exact absurd h (not_digits_cons rfl)
    | plus h => exact h
  · exact .plus

theorem unsigned_iff_of_ne (plus : ∀ rest, cs ≠ '+' :: rest) : Unsigned cs n ↔ Digits cs n := by
  constructor
  · intro h
    cases h with
    | plain h => exact h
    | plus h => exact absurd rfl (plus _)
  · exact .plain

theorem readBelow?_eq_some_iff {bound : Nat} :
    readBelow? bound s = some n ↔ Unsigned s.toList n ∧ n < bound := by
  unfold readBelow?
  simp only [Option.filter_eq_some_iff, decide_eq_true_eq, readDigits?_eq_some_iff]
  refine and_congr_left fun _ => ?_
  split
  · rename_i cs text
    rw [text, unsigned_plus_iff]
  · rename_i plus
    rw [unsigned_iff_of_ne plus]

theorem signed_plus_iff : Signed ('+' :: cs) i ↔ ∃ n, Digits cs n ∧ (n : Int) = i := by
  constructor
  · intro h
    cases h with
    | plain h => exact absurd h (not_digits_cons rfl)
    | plus h => exact ⟨_, h, rfl⟩
  · rintro ⟨n, h, rfl⟩
    exact .plus h

theorem signed_minus_iff : Signed ('-' :: cs) i ↔ ∃ n, Digits cs n ∧ -(n : Int) = i := by
  constructor
  · intro h
    cases h with
    | plain h => exact absurd h (not_digits_cons rfl)
    | minus h => exact ⟨_, h, rfl⟩
  · rintro ⟨n, h, rfl⟩
    exact .minus h

theorem signed_iff_of_ne (minus : ∀ rest, cs ≠ '-' :: rest) (plus : ∀ rest, cs ≠ '+' :: rest) :
    Signed cs i ↔ ∃ n, Digits cs n ∧ (n : Int) = i := by
  constructor
  · intro h
    cases h with
    | plain h => exact ⟨_, h, rfl⟩
    | plus h => exact absurd rfl (plus _)
    | minus h => exact absurd rfl (minus _)
  · rintro ⟨n, h, rfl⟩
    exact .plain h

theorem readSigned?_eq_some_iff {bits : Nat} : readSigned? bits s = some i ↔
    Signed s.toList i ∧ -(Nat.pow 2 (bits - 1) : Int) ≤ i ∧ i < (Nat.pow 2 (bits - 1) : Int) := by
  unfold readSigned?
  simp only [Option.filter_eq_some_iff, decide_eq_true_eq]
  refine and_congr_left fun _ => ?_
  split
  · rename_i cs text
    rw [text, signed_minus_iff]
    simp [Option.bind_eq_some_iff, readDigits?_eq_some_iff]
  · rename_i cs text
    rw [text, signed_plus_iff]
    simp [Option.bind_eq_some_iff, readDigits?_eq_some_iff]
  · rename_i minus plus
    rw [signed_iff_of_ne minus plus]
    simp [Option.bind_eq_some_iff, readDigits?_eq_some_iff]

end Turnstile.Text
