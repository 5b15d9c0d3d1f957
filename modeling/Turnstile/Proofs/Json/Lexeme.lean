import Turnstile.Proofs.Json.RoundTrip

/-!
The texts of numerals and strings in JSON. Main statements: what a reader takes for a numeral is a
text of the numeral (`Written.numeralText_of_readNumeral?`), every such text is read in front of
what may follow a value (`Written.readNumeral?_of_numeralText`), and the same holds of strings
(`Written.readString_eq_some_iff`).
-/

namespace Turnstile.Json

/-! ## Texts -/

/-- The fraction of a numeral: nothing, or a point and its digits. -/
inductive FractionText : List Char → List Char → Prop
  | none : FractionText [] []
  | some {digits : List Char} (nonempty : digits ≠ [])
      (all : ∀ c ∈ digits, Text.isDigit c = true) : FractionText digits ('.' :: digits)

/-- The sign of an exponent. -/
inductive SignText : Bool → List Char → Prop
  | none : SignText false []
  | plus : SignText false ['+']
  | minus : SignText true ['-']

/-- The exponent of a numeral: nothing, or a mark, an optional sign and digits. -/
inductive ExponentText : Option (Bool × List Char) → List Char → Prop
  | none : ExponentText none []
  | some {mark : Char} {below : Bool} {sign digits : List Char} (letter : mark = 'e' ∨ mark = 'E')
      (signed : SignText below sign) (nonempty : digits ≠ [])
      (all : ∀ c ∈ digits, Text.isDigit c = true) :
      ExponentText (some (below, digits)) (mark :: (sign ++ digits))

/-- A text of a numeral, its sign left out: digits without a leading zero, a fraction and an
exponent. -/
inductive NumeralText : Numeral → List Char → Prop
  | mk {negative : Bool} {whole fraction fractionText exponentText : List Char}
      {exponent : Option (Bool × List Char)} (nonempty : whole ≠ [])
      (leading : whole.head? = some '0' → whole.length = 1)
      (all : ∀ c ∈ whole, Text.isDigit c = true) (behind : FractionText fraction fractionText)
      (power : ExponentText exponent exponentText) :
      NumeralText ⟨negative, whole, fraction, exponent⟩ (whole ++ (fractionText ++ exponentText))

open Written (Piece)

/-- The text of the pieces of a string: characters that stand for themselves, short escapes, and
units of UTF-16 by their number. -/
inductive PieceText : List Char → List Piece → Prop
  | nil : PieceText [] []
  | char {c : Char} {text : List Char} {ps : List Piece} (quote : c ≠ '"') (escape : c ≠ '\\')
      (high : ¬c.toNat < 0x20) (rest : PieceText text ps) : PieceText (c :: text) (.char c :: ps)
  | escape {c d : Char} {text : List Char} {ps : List Piece}
      (letter : Written.plainEscape? c = some d) (rest : PieceText text ps) :
      PieceText ('\\' :: c :: text) (.char d :: ps)
  | unit {a b c d : Char} {n : Nat} {text : List Char} {ps : List Piece}
      (number : Text.hexNumber? [a, b, c, d] = some n) (rest : PieceText text ps) :
      PieceText ('\\' :: 'u' :: a :: b :: c :: d :: text) (.unit n :: ps)

/-- The text of a string between its quotes. -/
def StringText (text : List Char) (s : String) : Prop :=
  ∃ ps, PieceText text ps ∧ Written.joinPieces? ps = some s.toList

namespace Written

variable {cs rest text : List Char} {n : Numeral} {negative : Bool}

/-! ## What follows a value -/

/-- What may follow a value: the end of the text, a blank, a comma, or a bracket or brace that
closes. -/
def Ends (rest : List Char) : Prop :=
  ∀ c ∈ rest.head?, isSpace c = true ∨ c = ',' ∨ c = ']' ∨ c = '\x7d'

theorem Ends.cases (h : Ends rest) : ∀ c ∈ rest.head?, Text.isDigit c = false ∧ c ≠ '.' ∧
    c ≠ 'e' ∧ c ≠ 'E' := by
  intro c mem
  rcases h c mem with space | rfl | rfl | rfl
  · unfold isSpace at space
    simp only [Bool.or_eq_true, decide_eq_true_eq] at space
    rcases space with ((rfl | rfl) | rfl) | rfl <;> decide
  · decide
  · decide
  · decide

/-! ## Numerals -/

theorem spanDigits_spec (cs : List Char) :
    cs = (spanDigits cs).1 ++ (spanDigits cs).2 ∧
      ∀ c ∈ (spanDigits cs).1, Text.isDigit c = true :=
  ⟨List.takeWhile_append_dropWhile.symm, List.all_eq_true.1 List.all_takeWhile⟩

/-- The digits of an exponent behind its sign. -/
def takeExponent (below : Bool) (cs : List Char) : Option ((Bool × List Char) × List Char) :=
  if (spanDigits cs).1.isEmpty then none else some ((below, (spanDigits cs).1), (spanDigits cs).2)

theorem readExponent?_of_ne (plus : ∀ tail, cs ≠ '+' :: tail) (minus : ∀ tail, cs ≠ '-' :: tail) :
    readExponent? cs = takeExponent false cs := by
  unfold readExponent?
  split
  rename_i same
  split at same
  · exact absurd rfl (plus _)
  · exact absurd rfl (minus _)
  · cases same
    rfl

/-- An exponent is read by its sign. -/
theorem exists_sign (cs : List Char) : ∃ below sign tail, SignText below sign ∧
    cs = sign ++ tail ∧ readExponent? cs = takeExponent below tail := by
  by_cases plus : ∃ tail, cs = '+' :: tail
  · obtain ⟨tail, rfl⟩ := plus
    exact ⟨false, ['+'], tail, .plus, rfl, rfl⟩
  · by_cases minus : ∃ tail, cs = '-' :: tail
    · obtain ⟨tail, rfl⟩ := minus
      exact ⟨true, ['-'], tail, .minus, rfl, rfl⟩
    · exact ⟨false, [], cs, .none, rfl, readExponent?_of_ne (not_exists.1 plus)
        (not_exists.1 minus)⟩

theorem takeExponent_append {below : Bool} {digits : List Char} (nonempty : digits ≠ [])
    (all : ∀ c ∈ digits, Text.isDigit c = true)
    (stop : ∀ c ∈ rest.head?, Text.isDigit c = false) :
    takeExponent below (digits ++ rest) = some ((below, digits), rest) := by
  have started : digits.isEmpty = false := List.isEmpty_eq_false_iff.2 nonempty
  simp [takeExponent, spanDigits_append all stop, started]

theorem readExponent?_append {below : Bool} {sign digits : List Char}
    (signed : SignText below sign) (nonempty : digits ≠ [])
    (all : ∀ c ∈ digits, Text.isDigit c = true)
    (stop : ∀ c ∈ rest.head?, Text.isDigit c = false) :
    readExponent? (sign ++ (digits ++ rest)) = some ((below, digits), rest) := by
  rw [← takeExponent_append nonempty all stop]
  cases signed with
  | plus => rfl
  | minus => rfl
  | none =>
    obtain ⟨c, tail, rfl⟩ := List.exists_cons_of_ne_nil nonempty
    have digit := all c List.mem_cons_self
    refine readExponent?_of_ne ?_ ?_
    · intro other same
      exact Text.ne_of_isDigit digit rfl (List.cons.inj same).1
    · intro other same
      exact Text.ne_of_isDigit digit rfl (List.cons.inj same).1

theorem exponentText_of_readExponent? {mark : Char} {exponent : Bool × List Char}
    (letter : mark = 'e' ∨ mark = 'E') (h : readExponent? cs = some (exponent, rest)) :
    ∃ text, ExponentText (some exponent) text ∧ mark :: cs = text ++ rest := by
  obtain ⟨below, sign, tail, signed, rfl, read⟩ := exists_sign cs
  obtain ⟨parts, all⟩ := spanDigits_spec tail
  rw [read, takeExponent] at h
  split at h
  · cases h
  · rename_i started
    cases h
    refine ⟨_, .some letter signed (fun none => started (List.isEmpty_iff.2 none)) all, ?_⟩
    rw [List.cons_append, List.append_assoc, ← parts]

/-- What is taken for a numeral is a text of it. -/
theorem numeralText_of_readNumeral? (h : readNumeral? negative cs = some (n, rest)) :
    n.negative = negative ∧ ∃ text, NumeralText n text ∧ cs = text ++ rest := by
  obtain ⟨front, digits⟩ := spanDigits_spec cs
  unfold readNumeral? at h
  generalize spanDigits cs = parts at h front digits
  obtain ⟨whole, tail⟩ := parts
  dsimp only at h front digits
  split at h
  · cases h
  · rename_i proper
    simp only [Bool.or_eq_true, List.isEmpty_iff, Bool.and_eq_true, decide_eq_true_eq, not_or,
      not_and, Decidable.not_not] at proper
    obtain ⟨⟨fraction, behind⟩, fractional, made⟩ := Option.bind_eq_some_iff.1 h
    clear h
    dsimp only at made
    have middle : ∃ text, FractionText fraction text ∧ tail = text ++ behind := by
      split at fractional
      · rename_i tail
        obtain ⟨parts, all⟩ := spanDigits_spec tail
        split at fractional
        · cases fractional
        · rename_i started
          cases fractional
          refine ⟨_, .some (fun none => started (List.isEmpty_iff.2 none)) all, ?_⟩
          rw [List.cons_append, ← parts]
      · cases fractional
        exact ⟨_, .none, rfl⟩
    obtain ⟨fractionText, shape, rfl⟩ := middle
    have ends : n = ⟨negative, whole, fraction, none⟩ ∧ rest = behind ∨
        ∃ exponent text, n = ⟨negative, whole, fraction, some exponent⟩ ∧
          ExponentText (some exponent) text ∧ behind = text ++ rest := by
      split at made
      · split at made
        · rename_i letter
          obtain ⟨⟨exponent, ending⟩, read, same⟩ := Option.map_eq_some_iff.1 made
          cases same
          obtain ⟨text, power, parts⟩ := exponentText_of_readExponent? letter read
          exact .inr ⟨exponent, text, rfl, power, parts⟩
        · cases made
          exact .inl ⟨rfl, rfl⟩
      · cases made
        exact .inl ⟨rfl, rfl⟩
    rcases ends with ⟨rfl, rfl⟩ | ⟨exponent, text, rfl, power, rfl⟩
    · refine ⟨rfl, _, .mk proper.1 proper.2 digits shape .none, ?_⟩
      rw [front, List.append_nil, List.append_assoc]
    · refine ⟨rfl, _, .mk proper.1 proper.2 digits shape power, ?_⟩
      rw [front, List.append_assoc, List.append_assoc]

theorem ExponentText.head {exponent : Option (Bool × List Char)} {text : List Char}
    (h : ExponentText exponent text) (after : Ends rest) :
    ∀ c ∈ (text ++ rest).head?, Text.isDigit c = false ∧ c ≠ '.' := by
  cases h with
  | none =>
    intro c mem
    exact ⟨(after.cases c mem).1, (after.cases c mem).2.1⟩
  | some letter =>
    rintro c ⟨⟩
    rcases letter with rfl | rfl <;> decide

theorem FractionText.head {fraction text : List Char} (h : FractionText fraction text)
    (stop : ∀ c ∈ rest.head?, Text.isDigit c = false ∧ c ≠ '.') :
    ∀ c ∈ (text ++ rest).head?, Text.isDigit c = false := by
  cases h with
  | none => exact fun c mem => (stop c mem).1
  | some =>
    rintro c ⟨⟩
    rfl

/-- A text of a numeral is read in front of what may follow a value. -/
theorem readNumeral?_of_numeralText (h : NumeralText n text) (after : Ends rest) :
    readNumeral? n.negative (text ++ rest) = some (n, rest) := by
  cases h with
  | mk nonempty leading all behind power =>
    rename_i negative whole fraction fractionText exponentText exponent
    have stop := ExponentText.head power after
    have front := spanDigits_append all (FractionText.head behind stop)
    have fits : (whole.isEmpty || (whole.head? = some '0' && whole.length ≠ 1)) = false := by
      rw [Bool.or_eq_false_iff, List.isEmpty_eq_false_iff]
      refine ⟨nonempty, ?_⟩
      rw [Bool.and_eq_false_imp]
      intro zero
      simpa using leading (of_decide_eq_true zero)
    unfold readNumeral?
    rw [List.append_assoc, List.append_assoc, front]
    dsimp only
    rw [if_neg (by rw [fits]; exact Bool.false_ne_true)]
    refine Option.bind_eq_some_iff.2 ⟨(fraction, exponentText ++ rest), ?_, ?_⟩
    · cases behind with
      | none =>
        split
        · rename_i point
          rw [List.nil_append] at point
          exact absurd rfl (stop '.' (by rw [point]; rfl)).2
        · rfl
      | some digits all =>
        have span := spanDigits_append all fun c mem => (stop c mem).1
        have started : fraction.isEmpty = false := List.isEmpty_eq_false_iff.2 digits
        simp [span, started]
    · cases power with
      | none =>
        cases rest with
        | nil => rfl
        | cons c tail =>
          have other := after.cases c rfl
          exact if_neg (by simp [other.2.2])
      | some letter signed digits all =>
        have read := readExponent?_append signed digits all fun c mem => (after.cases c mem).1
        simp only [List.cons_append, List.append_assoc]
        rw [if_pos letter, read]
        rfl

/-! ## Strings -/

theorem pieces?_of_pieceText {ps : List Piece} (h : PieceText text ps) :
    pieces? (text ++ '"' :: rest) = some (ps, rest) := by
  induction h with
  | nil => rfl
  | char quote escape high _ ih =>
    rw [List.cons_append, pieces?_plain quote escape high, ih]
    rfl
  | escape letter _ ih =>
    rename_i c d text ps _
    have notUnit : c ≠ 'u' := by
      rintro rfl
      cases letter
    rw [List.cons_append, List.cons_append, pieces?, letter, Option.bind_some, ih]
    · rfl
    · intro a b c' d' rest same
      exact absurd same notUnit
  | unit number _ ih =>
    simp only [List.cons_append]
    rw [pieces?, number, Option.bind_some, ih]
    rfl

theorem pieceText_of_pieces? {ps : List Piece} (h : pieces? cs = some (ps, rest)) :
    ∃ text, PieceText text ps ∧ cs = text ++ '"' :: rest := by
  fun_induction pieces? cs generalizing ps with
  | case1 => cases h
  | case2 rest =>
    cases h
    exact ⟨[], .nil, rfl⟩
  | case3 a b c d tail ih =>
    obtain ⟨n, number, h⟩ := Option.bind_eq_some_iff.1 h
    obtain ⟨⟨more, after⟩, read, made⟩ := Option.map_eq_some_iff.1 h
    cases made
    obtain ⟨text, pieces, rfl⟩ := ih read
    exact ⟨_, .unit number pieces, rfl⟩
  | case4 c tail _ ih =>
    obtain ⟨plain, letter, h⟩ := Option.bind_eq_some_iff.1 h
    obtain ⟨⟨more, after⟩, read, made⟩ := Option.map_eq_some_iff.1 h
    cases made
    obtain ⟨text, pieces, rfl⟩ := ih read
    exact ⟨_, .escape letter pieces, rfl⟩
  | case5 => cases h
  | case6 c tail quote _ _ fits ih =>
    obtain ⟨⟨more, after⟩, read, made⟩ := Option.map_eq_some_iff.1 h
    cases made
    obtain ⟨text, pieces, rfl⟩ := ih read
    rw [not_or] at fits
    exact ⟨_, .char quote fits.1 fits.2 pieces, rfl⟩

/-- A string is read exactly from its texts. -/
theorem readString_eq_some_iff {s : String} :
    readString cs = some (some s, rest) ↔ ∃ text, StringText text s ∧ cs = text ++ '"' :: rest := by
  unfold readString
  rw [Option.map_eq_some_iff]
  constructor
  · rintro ⟨⟨ps, after⟩, read, made⟩
    simp only [Prod.mk.injEq, Option.map_eq_some_iff] at made
    obtain ⟨⟨chars, joined, rfl⟩, rfl⟩ := made
    obtain ⟨text, pieces, rfl⟩ := pieceText_of_pieces? read
    exact ⟨text, ⟨ps, pieces, by rw [joined, String.toList_ofList]⟩, rfl⟩
  · rintro ⟨text, ⟨ps, pieces, joined⟩, rfl⟩
    refine ⟨(ps, rest), pieces?_of_pieceText pieces, ?_⟩
    simp [joined]

end Written

end Turnstile.Json
