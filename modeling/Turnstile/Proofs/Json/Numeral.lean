import Turnstile.Json.Written
import Turnstile.Proofs.Text.Numeral

/-!
The text of a numeral, beside its reader: the digits of its whole part, the fraction behind a point,
the exponent behind its mark and its sign. Main statement: a numeral with digits in all the places
where they must stand is read from its text (`Written.readNumeral?_chars`).
-/

namespace Turnstile.Json

namespace Numeral

/-! ## Text -/

/-- A fraction behind its point; nothing for none. -/
def fractionChars : List Char → List Char
  | [] => []
  | digits => '.' :: digits

/-- An exponent behind its mark and its sign; nothing for none. -/
def exponentChars : Option (Bool × List Char) → List Char
  | none => []
  | some (below, digits) => 'e' :: (if below then '-' else '+') :: digits

/-- The text of a numeral, its sign left out. -/
def chars (n : Numeral) : List Char :=
  n.whole ++ (fractionChars n.fraction ++ exponentChars n.exponent)

/-- A numeral with digits in all the places where they must stand:

* `started`: the whole part is not empty;
* `leading`: a whole part of several digits does not start with zero;
* `whole`, `fraction`, `exponent`: there are only digits, in an exponent at least one. -/
structure Proper (n : Numeral) : Prop where
  started : n.whole ≠ []
  leading : n.whole.head? = some '0' → n.whole.length = 1
  whole : ∀ c ∈ n.whole, Text.isDigit c = true
  fraction : ∀ c ∈ n.fraction, Text.isDigit c = true
  exponent : ∀ e ∈ n.exponent, e.2 ≠ [] ∧ ∀ c ∈ e.2, Text.isDigit c = true

end Numeral

namespace Written

/-! ## Reading -/

/-- What follows a value: the end of the text, or a comma, or a closing bracket or brace. -/
def Follows (rest : List Char) : Prop := ∀ c ∈ rest.head?, c = ',' ∨ c = ']' ∨ c = '\x7d'

theorem follows_nil : Follows [] := by simp [Follows]

/-- No digit follows a value. -/
theorem Follows.isDigit_eq_false {rest : List Char} (h : Follows rest) :
    ∀ c ∈ rest.head?, Text.isDigit c = false := by
  intro c hc
  rcases h c hc with rfl | rfl | rfl <;> rfl

/-- A run of digits ends where no digit follows. -/
theorem spanDigits_append {ds rest : List Char} (digits : ∀ c ∈ ds, Text.isDigit c = true)
    (stop : ∀ c ∈ rest.head?, Text.isDigit c = false) : spanDigits (ds ++ rest) = (ds, rest) := by
  have stopped : rest.takeWhile Text.isDigit = [] ∧ rest.dropWhile Text.isDigit = rest := by
    cases rest with
    | nil => exact ⟨rfl, rfl⟩
    | cons c rest => simp [stop c rfl]
  rw [spanDigits, List.takeWhile_append_of_pos digits, List.dropWhile_append_of_pos digits,
    stopped.1, stopped.2, List.append_nil]

section

variable {rest : List Char} (after : Follows rest)
include after

/-- An exponent is read behind its mark. -/
theorem readExponent?_chars (below : Bool) {digits : List Char} (started : digits ≠ [])
    (all : ∀ c ∈ digits, Text.isDigit c = true) :
    readExponent? ((if below then '-' else '+') :: (digits ++ rest)) =
      some ((below, digits), rest) := by
  have span := spanDigits_append all after.isDigit_eq_false
  have some_digit : digits.isEmpty = false := List.isEmpty_eq_false_iff.2 started
  cases below <;> simp [readExponent?, span, some_digit]

/-- Neither an exponent nor what follows a value starts with a digit. -/
theorem isDigit_eq_false_of_exponent (exponent : Option (Bool × List Char)) :
    ∀ c ∈ (Numeral.exponentChars exponent ++ rest).head?, Text.isDigit c = false := by
  cases exponent with
  | none => exact after.isDigit_eq_false
  | some e => simp [Numeral.exponentChars, show Text.isDigit 'e' = false from rfl]

/-- Nor does a fraction with its point. -/
theorem isDigit_eq_false_of_fraction (fraction : List Char) (exponent : Option (Bool × List Char)) :
    ∀ c ∈ (Numeral.fractionChars fraction ++ (Numeral.exponentChars exponent ++ rest)).head?,
      Text.isDigit c = false := by
  cases fraction with
  | nil => exact isDigit_eq_false_of_exponent after exponent
  | cons d ds => simp [Numeral.fractionChars, show Text.isDigit '.' = false from rfl]

/-- A numeral is read from its text. -/
theorem readNumeral?_chars {n : Numeral} (proper : n.Proper) :
    readNumeral? n.negative (n.chars ++ rest) = some (n, rest) := by
  obtain ⟨negative, whole, fraction, exponent⟩ := n
  obtain ⟨started, leading, wholeDigits, fractionDigits, exponentDigits⟩ := proper
  have fits : (whole.isEmpty || (whole.head? = some '0' && whole.length ≠ 1)) = false := by
    rw [Bool.or_eq_false_iff, List.isEmpty_eq_false_iff]
    refine ⟨started, ?_⟩
    rw [Bool.and_eq_false_imp]
    intro zero
    simpa using leading (of_decide_eq_true zero)
  have front := spanDigits_append wholeDigits (isDigit_eq_false_of_fraction after fraction exponent)
  have middle := spanDigits_append fractionDigits (isDigit_eq_false_of_exponent after exponent)
  simp only [readNumeral?, Numeral.chars, List.append_assoc, front, fits]
  cases fraction with
  | nil =>
    cases exponent with
    | none =>
      cases rest with
      | nil => rfl
      | cons c rest => rcases after c rfl with rfl | rfl | rfl <;> rfl
    | some e =>
      obtain ⟨some_digit, all⟩ := exponentDigits e rfl
      have tail := readExponent?_chars after e.1 some_digit all
      simp [Numeral.fractionChars, Numeral.exponentChars, tail]
  | cons d ds =>
    simp only [List.cons_append] at middle
    cases exponent with
    | none =>
      simp only [Numeral.exponentChars, List.nil_append] at middle
      simp only [Numeral.fractionChars, Numeral.exponentChars, List.cons_append, List.nil_append,
        middle]
      cases rest with
      | nil => rfl
      | cons c rest => rcases after c rfl with rfl | rfl | rfl <;> rfl
    | some e =>
      obtain ⟨some_digit, all⟩ := exponentDigits e rfl
      have tail := readExponent?_chars after e.1 some_digit all
      simp only [Numeral.exponentChars, List.cons_append] at middle
      simp [Numeral.fractionChars, Numeral.exponentChars, middle, tail]

end

end Written

end Turnstile.Json
