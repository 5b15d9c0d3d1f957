import Turnstile.Number.Shortest
import Turnstile.Proofs.Json.Numeral

/-!
The text of a floating-point number is a numeral of JSON, be it positional or scientific. Main
statement: it is the sign and the text of a proper numeral (`proper_numeral`, `toList_text`).
-/

namespace Turnstile.Double

open Json (Numeral)

/-- The numeral that is written for a number. -/
def numeral (d : Double) : Numeral :=
  let short := d.shortest
  let digits := Text.decimalDigits short.digits
  let place := (Text.digitCount short.digits : Int) + short.exponent
  if short.digits = 0 then ⟨d.negative, ['0'], ['0'], none⟩
  else if -5 < place ∧ place ≤ 16 then
    if 0 ≤ short.exponent then ⟨d.negative, digits ++ zeros short.exponent.toNat, ['0'], none⟩
    else if 0 < place then ⟨d.negative, digits.take place.toNat, digits.drop place.toNat, none⟩
    else ⟨d.negative, ['0'], zeros (-place).toNat ++ digits, none⟩
  else
    ⟨d.negative, digits.take 1, digits.drop 1,
      some (place - 1 < 0, Text.decimalDigits (place - 1).natAbs)⟩

theorem negative_numeral (d : Double) : d.numeral.negative = d.negative := by
  simp only [numeral]
  split
  · rfl
  · split
    · split
      · rfl
      · split <;> rfl
    · rfl

theorem isDigit_of_mem_zeros {n : Nat} {c : Char} (h : c ∈ zeros n) : Text.isDigit c = true := by
  rw [List.eq_of_mem_replicate h]
  rfl

/-- The numeral of a number has digits in all the places where they must stand. -/
theorem proper_numeral (d : Double) : d.numeral.Proper := by
  have zero : Text.isDigit '0' = true := rfl
  simp only [numeral]
  split
  · constructor <;> simp [zero]
  rename_i nonzero
  have digit := @Text.isDigit_of_mem_decimalDigits d.shortest.digits
  have started := Text.decimalDigits_ne_nil d.shortest.digits
  have first := Text.head?_decimalDigits_ne_zero nonzero
  have count : Text.digitCount d.shortest.digits =
    (Text.decimalDigits d.shortest.digits).length := rfl
  generalize Text.digitCount d.shortest.digits = places at count ⊢
  generalize Text.decimalDigits d.shortest.digits = ds at digit started first count ⊢
  generalize d.shortest.exponent = e
  have taken : ∀ n, ∀ c ∈ ds.take n, Text.isDigit c = true :=
    fun n c hc => digit (List.mem_of_mem_take hc)
  have dropped : ∀ n, ∀ c ∈ ds.drop n, Text.isDigit c = true :=
    fun n c hc => digit (List.mem_of_mem_drop hc)
  split
  · split
    · -- an integer: zeros behind the digits, and one zero behind the point
      refine ⟨by simp [started], ?_, ?_, by simp [zero], by simp⟩
      · intro head
        obtain ⟨c, cs, rfl⟩ := List.exists_cons_of_ne_nil started
        exact absurd head first
      · intro c hc
        rcases List.mem_append.1 hc with hc | hc
        · exact digit hc
        · exact isDigit_of_mem_zeros hc
    · split
      · -- the point stands among the digits
        refine ⟨?_, ?_, taken _, dropped _, by simp⟩
        · rw [Ne, List.take_eq_nil_iff]
          exact not_or.2 ⟨by omega, started⟩
        · rw [List.head?_take, if_neg (by omega)]
          exact fun head => absurd head first
      · -- the point stands before the digits
        refine ⟨by simp, by simp, by simp [zero], ?_, by simp⟩
        intro c hc
        rcases List.mem_append.1 hc with hc | hc
        · exact isDigit_of_mem_zeros hc
        · exact digit hc
  · refine ⟨?_, ?_, taken 1, dropped 1, ?_⟩
    · rw [Ne, List.take_eq_nil_iff]
      exact not_or.2 ⟨by omega, started⟩
    · intro _
      have long := List.length_pos_iff.2 started
      rw [List.length_take]
      omega
    · rintro exponent ⟨⟩
      exact ⟨Text.decimalDigits_ne_nil _, fun c hc => Text.isDigit_of_mem_decimalDigits hc⟩

/-- A fraction that is not empty stands behind a point. -/
theorem fractionChars_of_ne_nil {ds : List Char} (h : ds ≠ []) :
    Numeral.fractionChars ds = '.' :: ds := by
  cases ds with
  | nil => exact absurd rfl h
  | cons c rest => rfl

/-- The text of a number is its sign and its numeral. -/
theorem toList_text (d : Double) : d.text.toList = d.signText ++ d.numeral.chars := by
  have started := Text.decimalDigits_ne_nil d.shortest.digits
  have count : Text.digitCount d.shortest.digits =
    (Text.decimalDigits d.shortest.digits).length := rfl
  simp only [text, numeral, positional, scientific, String.toList_ofList]
  congr 1
  rw [← count]
  generalize Text.digitCount d.shortest.digits = places at count ⊢
  generalize Text.decimalDigits d.shortest.digits = ds at started count ⊢
  generalize d.shortest.exponent = e
  have long := List.length_pos_iff.2 started
  split
  · rfl
  · split
    · split
      · simp [Numeral.chars, Numeral.fractionChars, Numeral.exponentChars]
      · split
        · have behind : ds.drop ((places : Int) + e).toNat ≠ [] :=
            fun none => absurd (List.drop_eq_nil_iff.1 none) (by omega)
          simp [Numeral.chars, fractionChars_of_ne_nil behind, Numeral.exponentChars]
        · have behind : zeros (-((places : Int) + e)).toNat ++ ds ≠ [] := by simp [started]
          generalize zeros (-((places : Int) + e)).toNat = front at behind ⊢
          simp [Numeral.chars, fractionChars_of_ne_nil behind, Numeral.exponentChars]
    · simp only [Numeral.chars, Numeral.exponentChars]
      by_cases single : places = 1
      · have none : ds.drop 1 = [] := List.drop_eq_nil_iff.2 (by omega)
        simp [single, none, Numeral.fractionChars]
      · have behind : ds.drop 1 ≠ [] :=
          fun none => absurd (List.drop_eq_nil_iff.1 none) (by omega)
        rw [if_neg single, fractionChars_of_ne_nil behind]
        simp

end Turnstile.Double
