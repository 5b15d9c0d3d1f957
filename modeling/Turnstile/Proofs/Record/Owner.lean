import Mathlib.Data.List.Induction
import Turnstile.Token

/-!
The texts that name an owner. Main statement: a text is read as a token exactly if it is one of the
four forms of its 32 digits, which may be of either case (`read?_eq_some_iff`).
-/

namespace Turnstile.Token

/-- The four forms of a token with given digits: the digits alone, in groups, in groups between
braces, and in groups behind a scheme in letters of either case. -/
inductive Form (digits : List Char) : List Char → Prop
  | plain : Form digits digits
  | grouped : Form digits (hyphenate digits)
  | braced : Form digits ('\x7b' :: hyphenate digits ++ ['\x7d'])
  | scheme {word : List Char} (h : word.map Char.toLower = "urn:uuid:".toList) :
      Form digits (word ++ hyphenate digits)

/-- A text names a token: it is a form of 32 hexadecimal digits, and the token is their number. -/
def Named (cs : List Char) (t : Token) : Prop :=
  ∃ digits, digits.length = 32 ∧ Text.hexNumber? digits = some t.value ∧ Form digits cs

variable {cs digits : List Char} {t : Token}

/-! ## Digits -/

theorem hexNumber?_snoc (cs : List Char) (c : Char) : Text.hexNumber? (cs ++ [c]) =
    (Text.hexNumber? cs).bind fun n => (Text.hexValue? c).map (n * 16 + ·) := by
  unfold Text.hexNumber?
  rw [List.foldlM_append]
  simp [Option.bind_eq_bind]

theorem hexValue?_lt {c : Char} {v : Nat} (h : Text.hexValue? c = some v) : v < 16 := by
  have value : ∀ {a b : Char}, a ≤ c → c ≤ b → a.toNat ≤ c.toNat ∧ c.toNat ≤ b.toNat := by
    intro a b low high
    exact ⟨UInt32.le_iff_toNat_le.1 (Char.le_def.1 low),
      UInt32.le_iff_toNat_le.1 (Char.le_def.1 high)⟩
  unfold Text.hexValue? at h
  split at h
  · rename_i range
    have bounds := value range.1 range.2
    cases h
    have : c.toNat ≤ 57 := bounds.2
    omega
  · split at h
    · rename_i range
      have bounds := value range.1 range.2
      cases h
      have : c.toNat ≤ 102 := bounds.2
      omega
    · split at h
      · rename_i range
        have bounds := value range.1 range.2
        cases h
        have : c.toNat ≤ 70 := bounds.2
        omega
      · cases h

/-- Digits stand for a number that is not longer than they are. -/
theorem hexNumber?_lt {n : Nat} (h : Text.hexNumber? cs = some n) : n < Nat.pow 16 cs.length := by
  induction cs using List.reverseRecOn generalizing n with
  | nil =>
    cases h
    exact Nat.one_pos
  | append_singleton cs c ih =>
    rw [hexNumber?_snoc, Option.bind_eq_some_iff] at h
    obtain ⟨m, front, last⟩ := h
    obtain ⟨v, digit, rfl⟩ := Option.map_eq_some_iff.1 last
    have := ih front
    have := hexValue?_lt digit
    rw [List.length_append, List.length_singleton]
    show m * 16 + v < Nat.pow 16 cs.length * 16
    omega

/-- Characters stand for a number if all of them are digits. -/
theorem exists_hexNumber?_iff :
    (∃ n, Text.hexNumber? cs = some n) ↔ ∀ c ∈ cs, (Text.hexValue? c).isSome := by
  induction cs using List.reverseRecOn with
  | nil => simp [Text.hexNumber?]
  | append_singleton cs c ih =>
    rw [hexNumber?_snoc, List.forall_mem_append, List.forall_mem_singleton, ← ih]
    cases Text.hexNumber? cs <;> cases Text.hexValue? c <;> simp

/-! ## Forms -/

theorem ungroup?_eq_some_iff :
    ungroup? cs = some digits ↔ digits.length = 32 ∧ cs = hyphenate digits := by
  constructor
  · intro h
    unfold ungroup? at h
    simp only [] at h
    split at h
    · rename_i parts
      cases h
      exact parts
    · cases h
  · rintro ⟨length, rfl⟩
    exact ungroup?_hyphenate length

/-- A text of 38 characters between braces. -/
theorem eq_braced_iff {inner : List Char} (h : cs.length = 38) :
    ((cs.head? = some '\x7b' ∧ cs.getLast? = some '\x7d') ∧ (cs.drop 1).take 36 = inner) ↔
      cs = '\x7b' :: inner ++ ['\x7d'] := by
  constructor
  · rintro ⟨⟨first, last⟩, rfl⟩
    cases cs with
    | nil => cases first
    | cons c rest =>
      cases first
      obtain ⟨front, back, rfl⟩ := (List.eq_nil_or_concat rest).resolve_left
        (by rintro rfl; cases h)
      rw [List.concat_eq_append] at h last ⊢
      have length : front.length = 36 := by simpa using h
      have same : back = '\x7d' := by
        rw [← List.cons_append, List.getLast?_concat] at last
        exact Option.some.inj last
      rw [same, List.drop_one, List.tail_cons, List.take_left' length]
      rfl
  · rintro rfl
    have length : inner.length = 36 := by simpa using h
    simp [List.take_left' length, List.getLast?_cons]

theorem digits?_eq_some_iff :
    digits? cs = some digits ↔ digits.length = 32 ∧ Form digits cs := by
  constructor
  · intro h
    unfold digits? at h
    split at h
    · rename_i length
      cases h
      exact ⟨length, .plain⟩
    · split at h
      · obtain ⟨length, rfl⟩ := ungroup?_eq_some_iff.1 h
        exact ⟨length, .grouped⟩
      · split at h
        · rename_i long
          split at h
          · rename_i braces
            obtain ⟨length, inner⟩ := ungroup?_eq_some_iff.1 h
            rw [(eq_braced_iff long).1 ⟨braces, inner⟩]
            exact ⟨length, .braced⟩
          · cases h
        · split at h
          · split at h
            · rename_i scheme
              obtain ⟨length, inner⟩ := ungroup?_eq_some_iff.1 h
              rw [← List.take_append_drop 9 cs, inner]
              exact ⟨length, .scheme scheme⟩
            · cases h
          · cases h
  · rintro ⟨length, form⟩
    have grouped := length_hyphenate length
    unfold digits?
    cases form with
    | plain => exact if_pos length
    | grouped =>
      rw [if_neg (by omega), if_pos grouped]
      exact ungroup?_hyphenate length
    | braced =>
      have long : ('\x7b' :: hyphenate digits ++ ['\x7d']).length = 38 := by simp [grouped]
      obtain ⟨braces, inner⟩ := (eq_braced_iff long).2 rfl
      rw [if_neg (by omega), if_neg (by omega), if_pos long, if_pos braces, inner]
      exact ungroup?_hyphenate length
    | scheme word =>
      rename_i scheme
      have nine : scheme.length = 9 := by
        have same := congrArg List.length word
        rw [List.length_map] at same
        exact same
      have long : (scheme ++ hyphenate digits).length = 45 := by simp [grouped, nine]
      rw [if_neg (by omega), if_neg (by omega), if_neg (by omega), if_pos long,
        List.take_left' nine, List.drop_left' nine, if_pos word]
      exact ungroup?_hyphenate length

/-- A text is read as a token exactly if it names the token. -/
theorem read?_eq_some_iff {s : String} : read? s = some t ↔ Named s.toList t := by
  unfold read?
  rw [Option.bind_eq_some_iff]
  constructor
  · rintro ⟨digits, form, value⟩
    obtain ⟨n, number, rfl⟩ := Option.map_eq_some_iff.1 value
    obtain ⟨length, form⟩ := digits?_eq_some_iff.1 form
    have small := hexNumber?_lt number
    rw [length] at small
    refine ⟨digits, length, ?_, form⟩
    rw [number]
    exact congrArg some (Nat.mod_eq_of_lt small).symm
  · rintro ⟨digits, length, number, form⟩
    refine ⟨digits, digits?_eq_some_iff.2 ⟨length, form⟩, ?_⟩
    rw [number, Option.map_some, ofNat_value]

/-- A text names a token exactly if it is a form of 32 hexadecimal digits. -/
theorem exists_named_iff : (∃ t, Named cs t) ↔
    ∃ digits, digits.length = 32 ∧ (∀ c ∈ digits, (Text.hexValue? c).isSome) ∧ Form digits cs := by
  constructor
  · rintro ⟨t, digits, length, number, form⟩
    exact ⟨digits, length, exists_hexNumber?_iff.1 ⟨_, number⟩, form⟩
  · rintro ⟨digits, length, hex, form⟩
    obtain ⟨n, number⟩ := exists_hexNumber?_iff.2 hex
    have small := hexNumber?_lt number
    rw [length] at small
    exact ⟨⟨n, small⟩, digits, length, number, form⟩

end Turnstile.Token
