import Turnstile.Json.Printer
import Turnstile.Proofs.Json.Numeral

/-!
Strings and integers of JSON texts read back. Main statements: what a quoted string leaves to be
read is the string (`Written.readString_quote`), and what the numeral of an integer of 64 bits
leaves is the integer (`Written.readNumber_decimalDigits`).
-/

namespace Turnstile.Json

namespace Written

/-! ## Strings -/

/-- The piece that is read for a character: those without a short escape are named by number. -/
def pieceOf (c : Char) : Piece :=
  if c.toNat < 0x20 ∧ c ≠ '\n' ∧ c ≠ '\r' ∧ c ≠ '\t' ∧ c ≠ '\x08' ∧ c ≠ '\x0c' then .unit c.toNat
  else .char c

/-- A character that stands for itself in a string. -/
theorem pieces?_plain {c : Char} (quote : c ≠ '"') (escape : c ≠ '\\') (high : ¬c.toNat < 0x20)
    (rest : List Char) :
    pieces? (c :: rest) = (pieces? rest).map fun (more, after) => (.char c :: more, after) := by
  rw [pieces?]
  · rw [if_neg (by simp [escape, high])]
  · exact quote
  · exact fun _ _ _ _ _ same => absurd same escape
  · exact fun _ _ same => absurd same escape

/-- A character that is named by its number in a string. -/
theorem pieces?_unit {n : Nat} (small : n < 0x20) (rest : List Char) :
    pieces? ('\\' :: 'u' :: Text.hexDigits 4 n ++ rest) =
      (pieces? rest).map fun (more, after) => (.unit n :: more, after) := by
  have value : Text.hexNumber? (Text.hexDigits 4 n) = some n := by
    rw [Text.hexNumber?_hexDigits]
    congr 1
    exact Nat.mod_eq_of_lt (Nat.lt_trans small (by decide))
  obtain ⟨a, b, c, d, digits⟩ : ∃ a b c d, Text.hexDigits 4 n = [a, b, c, d] := ⟨_, _, _, _, rfl⟩
  rw [digits] at value ⊢
  simp only [List.cons_append, List.nil_append]
  rw [pieces?, value, Option.bind_some]

/-- What is written for a character is read as its piece. -/
theorem pieces?_escapeChar (c : Char) (rest : List Char) :
    pieces? (escapeChar c ++ rest) =
      (pieces? rest).map fun (more, after) => (pieceOf c :: more, after) := by
  unfold escapeChar
  -- every short escape is a pair of known characters
  iterate 7
    split
    · subst c
      rfl
  rename_i quote escape n r t b f
  split
  · rename_i small
    rw [pieceOf, if_pos ⟨small, n, r, t, b, f⟩]
    exact pieces?_unit small rest
  · rename_i high
    rw [pieceOf, if_neg (fun small => high small.1)]
    exact pieces?_plain quote escape high rest

theorem pieces?_quote (cs rest : List Char) :
    pieces? (cs.flatMap escapeChar ++ '"' :: rest) = some (cs.map pieceOf, rest) := by
  induction cs with
  | nil => rfl
  | cons c cs ih =>
    rw [List.flatMap_cons, List.append_assoc, pieces?_escapeChar, ih]
    rfl

/-- A number that is no half of a surrogate pair stands for its character. -/
theorem joinPieces?_unit {n : Nat} (small : n < 0x20) (ps : List Piece) :
    joinPieces? (.unit n :: ps) = (joinPieces? ps).map (Char.ofNat n :: ·) := by
  have notHigh : ¬(0xD800 ≤ n ∧ n < 0xDC00) := by omega
  have notLow : ¬(0xDC00 ≤ n ∧ n < 0xE000) := by omega
  have alone : ¬(0xD800 ≤ n ∧ n < 0xE000) := by omega
  cases ps with
  | nil => simp [joinPieces?, alone]
  | cons p rest =>
    cases p with
    | char c => simp [joinPieces?, alone]
    | unit low => rw [joinPieces?, if_neg notHigh, if_neg notLow]

/-- The pieces of a string join to its characters. -/
theorem joinPieces?_pieceOf (cs : List Char) : joinPieces? (cs.map pieceOf) = some cs := by
  induction cs with
  | nil => rfl
  | cons c cs ih =>
    rw [List.map_cons, pieceOf]
    split
    · rename_i control
      rw [joinPieces?_unit control.1, ih, Option.map_some, Char.ofNat_toNat]
    · rw [joinPieces?, ih, Option.map_some]

/-- A quoted string is read as the string. -/
theorem readString_quote (s : String) (rest : List Char) :
    readString (s.toList.flatMap escapeChar ++ '"' :: rest) = some (some s, rest) := by
  rw [readString, pieces?_quote, Option.map_some]
  simp only [joinPieces?_pieceOf, Option.map_some, String.ofList_toList]

end Written

/-! ## Integers -/

namespace Numeral

/-- The digits of a number are a numeral without a fraction and without an exponent. -/
theorem Proper.ofDigits (negative : Bool) (n : Nat) :
    Proper ⟨negative, Text.decimalDigits n, [], none⟩ where
  started := Text.decimalDigits_ne_nil n
  leading := Text.length_decimalDigits_of_head?
  whole _ hc := Text.isDigit_of_mem_decimalDigits hc
  fraction _ hc := by cases hc
  exponent _ he := by cases he

theorem le_digitsFrom (start : Nat) (cs : List Char) : start ≤ Text.digitsFrom start cs := by
  induction cs generalizing start with
  | nil => exact Nat.le_refl start
  | cons c rest ih =>
    have step := ih (start * 10 + (c.toNat - 48))
    rw [Text.digitsFrom, List.foldl_cons]
    rw [Text.digitsFrom] at step
    omega

/-- Digits are gathered into a number as long as it stays below the limit. -/
theorem gather_eq {start : Nat} {cs : List Char}
    (h : Text.digitsFrom start cs < significandLimit) :
    gather start cs = (Text.digitsFrom start cs, []) := by
  induction cs generalizing start with
  | nil => rfl
  | cons c rest ih =>
    have step : Text.digitsFrom start (c :: rest) =
        Text.digitsFrom (start * 10 + (c.toNat - 48)) rest := rfl
    rw [step] at h ⊢
    rw [gather, if_pos (Nat.lt_of_le_of_lt (le_digitsFrom _ rest) h), ih h]

theorem gather_decimalDigits {n : Nat} (h : n < significandLimit) :
    gather 0 (Text.decimalDigits n) = (n, []) := by
  have value : Text.digitsFrom 0 (Text.decimalDigits n) = n := Text.digitsValue_decimalDigits n
  rw [gather_eq (by rw [value]; exact h), value]

/-- The numeral of a natural number of 64 bits is that number. -/
theorem number?_of_nonneg {n : Nat} (h : n < significandLimit) :
    number? ⟨false, Text.decimalDigits n, [], none⟩ = some (.int n) := by
  simp [number?, gather_decimalDigits h]

/-- The numeral of a negative number of 64 bits is that number. -/
theorem number?_of_neg {n : Nat} (pos : n ≠ 0) (h : n ≤ Nat.pow 2 63) :
    number? ⟨true, Text.decimalDigits n, [], none⟩ = some (.int (-(n : Int))) := by
  have small : n < significandLimit := Nat.lt_of_le_of_lt h (by decide)
  have inRange : n ≠ 0 ∧ n ≤ Nat.pow 2 63 := ⟨pos, h⟩
  simp only [number?, gather_decimalDigits small]
  rw [if_pos (by rfl), if_neg (by decide), if_pos inRange]

end Numeral

/-- The numeral of an integer of 64 bits, behind its sign, is read as the integer. -/
theorem Written.readNumber_decimalDigits {i : Int} (h : isInteger i = true) {rest : List Char}
    (after : Follows rest) :
    readNumber (i < 0) (Text.decimalDigits i.natAbs ++ rest) = (.number (.int i), some rest) := by
  simp only [isInteger, Bool.and_eq_true, decide_eq_true_eq] at h
  have proper : Numeral.Proper ⟨i < 0, Text.decimalDigits i.natAbs, [], none⟩ :=
    .ofDigits _ i.natAbs
  have read := readNumeral?_chars after proper
  simp only [Numeral.chars, Numeral.fractionChars, Numeral.exponentChars, List.append_nil] at read
  rw [readNumber, read]
  by_cases negative : i < 0
  · have value : -(i.natAbs : Int) = i := by omega
    have small : i.natAbs ≤ Nat.pow 2 63 := by omega
    simp only [ofNumeral, decide_eq_true negative,
      Numeral.number?_of_neg (show i.natAbs ≠ 0 by omega) small, value]
  · have value : (i.natAbs : Int) = i := by omega
    have small : i.natAbs < Numeral.significandLimit := by
      rw [Numeral.significandLimit]
      omega
    simp only [ofNumeral, decide_eq_false negative, Numeral.number?_of_nonneg small, value]

end Turnstile.Json
