import Turnstile.Number.Decimal.Reading
import Turnstile.Proofs.Number.Decimal
import Turnstile.Proofs.Text.Numeral

/-!
The text of a decimal number read back. Main statement: the number that is read has the value and
the scale of the one that was written (`read?_text`, `value_unsigned`); it is that very number but
for the sign of a zero (`unsigned_eq_self_iff`).

While digits are read, the coefficient and the scale only grow, and the text of a number ends before
they are out of range. So neither the step to a long coefficient nor the last place after the point
changes what is read (`Digits.Takes.read?_eq`).
-/

namespace Turnstile.Decimal

/-! ## Digits -/

namespace Digits

/-- Digits with at most one point among them take one state to another. -/
inductive Takes : Digits → List Char → Digits → Prop
  | nil (d : Digits) : Takes d [] d
  | digit {d d' : Digits} {c : Char} {n : Nat} {cs : List Char} (h : Text.digitValue? c = some n)
      (more : Takes (d.push n) cs d') : Takes d (c :: cs) d'
  | point {d d' : Digits} {cs : List Char} (h : d.afterPoint = false)
      (more : Takes { d with afterPoint := true } cs d') : Takes d ('.' :: cs) d'

namespace Takes

variable {d d' d'' : Digits} {cs ds : List Char}

theorem append (first : Takes d cs d') (second : Takes d' ds d'') : Takes d (cs ++ ds) d'' := by
  induction first with
  | nil d => exact second
  | digit h _ ih => exact .digit h (ih second)
  | point h _ ih => exact .point h (ih second)

/-- A digit never makes the coefficient smaller. -/
theorem coefficient_le (h : Takes d cs d') : d.coefficient ≤ d'.coefficient := by
  induction h with
  | nil d => exact Nat.le_refl _
  | @digit d d' c n cs _ _ ih =>
    have step : (d.push n).coefficient = d.coefficient * 10 + n := rfl
    omega
  | point _ _ ih => exact ih

/-- After the point every character is a place. -/
theorem scale_eq (h : Takes d cs d') (after : d.afterPoint = true) :
    d'.scale = d.scale + cs.length := by
  induction h with
  | nil d => rfl
  | @digit d d' c n cs _ _ ih =>
    have places := ih after
    have step : (d.push n).scale = d.scale + 1 := if_pos after
    rw [places, step, List.length_cons]
    omega
  | point h _ _ =>
    rw [h] at after
    cases after

/-- Digits are appended to the coefficient, and behind the point each of them is a place. -/
theorem ofDigits (negative after : Bool) (coefficient scale : Nat)
    (digit : ∀ c ∈ cs, Text.isDigit c = true) :
    Takes ⟨negative, after, coefficient, scale⟩ cs ⟨negative, after,
      Text.digitsFrom coefficient cs, if after then scale + cs.length else scale⟩ := by
  induction cs generalizing coefficient scale with
  | nil => cases after <;> exact .nil _
  | cons c cs ih =>
    have value := Text.digitValue?_of_isDigit (digit c List.mem_cons_self)
    have others := fun x hx => digit x (List.mem_cons_of_mem c hx)
    have rest := ih (coefficient * 10 + (c.toNat - 48)) (if after then scale + 1 else scale) others
    refine .digit value ?_
    cases after with
    | false => exact rest
    | true =>
      have places : scale + (c :: cs).length = scale + 1 + cs.length := by
        rw [List.length_cons]
        omega
      simp only [if_true, places] at rest ⊢
      exact rest

/-- What is read of digits that make a number in range is that number, with a long coefficient and
without. -/
theorem read?_eq (h : Takes d cs d') (small : d'.coefficient < limit)
    (short : d'.scale ≤ maxScale) :
    d.read? true cs = d'.finish? ∧ d.readLong? cs = d'.finish? := by
  induction h with
  | nil d => exact ⟨rfl, rfl⟩
  | @digit d d' c n cs value more ih =>
    have kept := ih small short
    have inRange : ¬limit ≤ (d.push n).coefficient := by
      have := more.coefficient_le
      omega
    -- no place is left only behind the last digit
    have last : (d.push n).full = true → cs = [] ∧ d' = d.push n := by
      intro full
      rw [Digits.full, Bool.and_eq_true, decide_eq_true_eq] at full
      have places := more.scale_eq full.1
      cases more with
      | nil => exact ⟨rfl, rfl⟩
      | digit => rw [List.length_cons] at places; omega
      | point => rw [List.length_cons] at places; omega
    by_cases full : (d.push n).full = true
    · obtain ⟨rfl, rfl⟩ := last full
      simp [read?, readLong?, value, full, inRange, round?]
    · simp only [read?, readLong?, value, full, inRange, if_false, Bool.false_eq_true,
        Bool.false_and, kept]
      simp
  | @point d d' cs before more ih =>
    have noDigit : Text.digitValue? '.' = none := rfl
    have kept := ih small short
    simp [read?, readLong?, noDigit, before, kept]

end Takes

end Digits

/-! ## Numbers -/

/-- The number, but a zero has no sign. -/
def unsigned (d : Decimal) : Decimal := { d with negative := d.isNegative }

variable {d : Decimal}

@[simp] theorem scale_unsigned (d : Decimal) : d.unsigned.scale = d.scale := rfl

@[simp] theorem value_unsigned (d : Decimal) : d.unsigned.value = d.value := by
  by_cases zero : d.coefficient = 0
  · rw [value_of_coefficient_eq_zero zero]
    exact value_of_coefficient_eq_zero zero
  · have sign : d.isNegative = d.negative := by simp [isNegative, zero]
    rw [unsigned, sign]

/-- The sign of a zero is all that is lost. -/
theorem unsigned_eq_self_iff : d.unsigned = d ↔ ¬(d.negative = true ∧ d.coefficient = 0) := by
  constructor
  · rintro same ⟨sign, zero⟩
    have lost : d.unsigned.negative = false := by simp [unsigned, isNegative, zero]
    rw [same, sign] at lost
    cases lost
  · intro signed
    have sign : d.isNegative = d.negative := by
      unfold isNegative
      by_cases zero : d.coefficient = 0
      · have positive : d.negative = false :=
          Bool.eq_false_iff.2 fun negative => signed ⟨negative, zero⟩
        simp [positive]
      · simp [zero]
    rw [unsigned, sign]

/-- The digits of a number are taken to its coefficient and its scale. -/
theorem takes_digits (d : Decimal) :
    Digits.Takes ⟨d.negative, false, 0, 0⟩
      (Text.decimalDigits (d.coefficient / Nat.pow 10 d.scale) ++
        if d.scale = 0 then [] else '.' :: Text.paddedDigits d.scale d.coefficient)
      ⟨d.negative, d.scale ≠ 0, d.coefficient, d.scale⟩ := by
  have whole := Digits.Takes.ofDigits d.negative false 0 0
    (fun _ => @Text.isDigit_of_mem_decimalDigits (d.coefficient / Nat.pow 10 d.scale) _)
  have value : Text.digitsFrom 0 (Text.decimalDigits (d.coefficient / Nat.pow 10 d.scale)) =
      d.coefficient / Nat.pow 10 d.scale := Text.digitsValue_decimalDigits _
  rw [value, if_neg Bool.false_ne_true] at whole
  by_cases integral : d.scale = 0
  · rw [if_pos integral, List.append_nil]
    simpa [integral] using whole
  · have places := Digits.Takes.ofDigits d.negative true (d.coefficient / Nat.pow 10 d.scale) 0
      (fun _ => @Text.isDigit_of_mem_paddedDigits d.scale d.coefficient _)
    rw [Text.digitsFrom_paddedDigits, Nat.div_add_mod', if_pos rfl, Text.length_paddedDigits,
      Nat.zero_add] at places
    rw [if_neg integral]
    simpa [integral] using whole.append (.point rfl places)

/-- A digit needs nothing before it. -/
theorem Digits.read?_of_isDigit {c : Char} (digit : Text.isDigit c = true) (d : Digits)
    (started : Bool) (rest : List Char) :
    d.read? started (c :: rest) = d.read? true (c :: rest) := by
  simp only [read?, Text.digitValue?_of_isDigit digit]

/-- A number in positional notation is read behind its sign. -/
theorem readPositional?_sign {c : Char} (digit : Text.isDigit c = true) (negative : Bool)
    (rest : List Char) :
    readPositional? ((if negative then ['-'] else []) ++ c :: rest) =
      Digits.read? ⟨negative, false, 0, 0⟩ true (c :: rest) := by
  rw [← Digits.read?_of_isDigit digit _ false]
  cases negative with
  | true => rfl
  | false =>
    have minus : c ≠ '-' := Text.ne_of_isDigit digit rfl
    have plus : c ≠ '+' := Text.ne_of_isDigit digit rfl
    unfold readPositional?
    split
    · rename_i same
      exact absurd (List.cons.inj same).1 minus
    · rename_i same
      exact absurd (List.cons.inj same).1 plus
    · rfl

/-- The text of a number is read as the number, but for the sign of a zero. -/
theorem read?_text (d : Decimal) : read? d.text = some d.unsigned := by
  have finished : Digits.finish? ⟨d.negative, d.scale ≠ 0, d.coefficient, d.scale⟩ =
      some d.unsigned := by
    have kept : d.scale % (maxScale + 1) = d.scale :=
      Nat.mod_eq_of_lt (Nat.lt_succ_of_le d.scale_le)
    rw [Digits.finish?, kept]
    exact dif_pos ⟨d.coefficient_lt, d.scale_le⟩
  have read := ((takes_digits d).read?_eq d.coefficient_lt d.scale_le).1.trans finished
  obtain ⟨c, rest, digits, digit⟩ :=
    Text.exists_decimalDigits_eq_cons (d.coefficient / Nat.pow 10 d.scale)
  rw [digits, List.cons_append] at read
  have positional : readPositional? d.text.toList = some d.unsigned := by
    rw [text, String.toList_ofList, List.append_assoc, digits, List.cons_append,
      readPositional?_sign digit, read]
  rw [read?, positional]
  rfl

end Turnstile.Decimal
