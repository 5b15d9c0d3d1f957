import Turnstile.Proofs.Json.Lexeme
import Turnstile.Proofs.Json.Members

/-!
The grammar of JSON. `Spells depth text j` says that a text, without blanks around it, is one of a
value whose arrays and objects are nested at most so deeply; of several members of one name the last
counts. Main statements: a value that is spelled is in canonical form (`Spells.canonical`) and not
nested more deeply than its text (`Spells.depth_le`).
-/

namespace Turnstile.Json

/-! ## Texts -/

/-- Blanks and nothing else. -/
def Blanks (cs : List Char) : Prop := ∀ c ∈ cs, Written.isSpace c = true

instance (cs : List Char) : Decidable (Blanks cs) :=
  decidable_of_iff (cs.all Written.isSpace = true) List.all_eq_true

/-- The sign of a number. -/
def signChars (negative : Bool) : List Char := if negative then ['-'] else []

mutual

/-- The texts of a value. -/
inductive Spells : Nat → List Char → Json → Prop
  | null {depth : Nat} : Spells depth ['n', 'u', 'l', 'l'] .null
  | yes {depth : Nat} : Spells depth ['t', 'r', 'u', 'e'] (.bool true)
  | no {depth : Nat} : Spells depth ['f', 'a', 'l', 's', 'e'] (.bool false)
  | number {depth : Nat} {n : Numeral} {v : Number} {text : List Char} (h : NumeralText n text)
      (value : n.number? = some v) : Spells depth (signChars n.negative ++ text) (.number v)
  | string {depth : Nat} {text : List Char} {s : String} (h : StringText text s) :
      Spells depth ('"' :: (text ++ ['"'])) (.string s)
  | emptyArray {depth : Nat} {blanks : List Char} (h : Blanks blanks) :
      Spells (depth + 1) ('[' :: (blanks ++ [']'])) (.array [])
  | array {depth : Nat} {text : List Char} {items : List Json} (h : SpellsItems depth text items) :
      Spells (depth + 1) ('[' :: (text ++ [']'])) (.array items)
  | emptyObject {depth : Nat} {blanks : List Char} (h : Blanks blanks) :
      Spells (depth + 1) ('\x7b' :: (blanks ++ ['\x7d'])) (.object [])
  | object {depth : Nat} {text : List Char} {members : List (String × Json)}
      (h : SpellsMembers depth text members) :
      Spells (depth + 1) ('\x7b' :: (text ++ ['\x7d'])) (.ofMembers members)

/-- The texts of the items of an array: one or more, with blanks around them, between commas. -/
inductive SpellsItems : Nat → List Char → List Json → Prop
  | last {depth : Nat} {before text after : List Char} {j : Json} (front : Blanks before)
      (h : Spells depth text j) (back : Blanks after) :
      SpellsItems depth (before ++ (text ++ after)) [j]
  | more {depth : Nat} {before text after rest : List Char} {j : Json} {items : List Json}
      (front : Blanks before) (h : Spells depth text j) (back : Blanks after)
      (others : SpellsItems depth rest items) :
      SpellsItems depth (before ++ (text ++ (after ++ ',' :: rest))) (j :: items)

/-- The texts of the members of an object: one or more, each a name, a colon and a value, with
blanks around them, between commas. -/
inductive SpellsMembers : Nat → List Char → List (String × Json) → Prop
  | last {depth : Nat} {start name colon before text after : List Char} {s : String} {j : Json}
      (first : Blanks start) (named : StringText name s) (second : Blanks colon)
      (front : Blanks before) (h : Spells depth text j) (back : Blanks after) :
      SpellsMembers depth
        (start ++ '"' :: (name ++ '"' :: (colon ++ ':' :: (before ++ (text ++ after))))) [(s, j)]
  | more {depth : Nat} {start name colon before text after rest : List Char} {s : String}
      {j : Json} {members : List (String × Json)} (first : Blanks start)
      (named : StringText name s) (second : Blanks colon) (front : Blanks before)
      (h : Spells depth text j) (back : Blanks after) (others : SpellsMembers depth rest members) :
      SpellsMembers depth
        (start ++ '"' :: (name ++ '"' :: (colon ++ ':' :: (before ++ (text ++
          (after ++ ',' :: rest)))))) ((s, j) :: members)

end

/-- The texts of a document: a value with blanks around it, nested at most 127 levels deep. -/
def Document (text : List Char) (j : Json) : Prop :=
  ∃ before body after, Blanks before ∧ Spells Written.maxDepth body j ∧ Blanks after ∧
    text = before ++ (body ++ after)

/-! ## Form -/

theorem Numeral.gather_lt (significand : Nat) (cs : List Char)
    (h : significand < significandLimit) :
    (gather significand cs).1 < significandLimit := by
  induction cs generalizing significand with
  | nil => exact h
  | cons c rest ih =>
    unfold gather
    dsimp only
    split
    · rename_i small
      exact ih _ small
    · exact h

/-- An integer that a numeral names has 64 bits. -/
theorem Numeral.isInteger_of_number? {n : Numeral} {i : Int} (h : n.number? = some (.int i)) :
    isInteger i = true := by
  have small := gather_lt 0 n.whole (by decide)
  have wide : significandLimit = Nat.pow 2 64 := rfl
  have notDouble : ∀ {o : Option Double}, o.map Number.double ≠ some (.int i) := by
    intro o same
    cases o <;> cases same
  unfold number? at h
  generalize gather 0 n.whole = parts at h small
  obtain ⟨significand, cut⟩ := parts
  dsimp only at h small
  split at h
  · split at h
    · cases h
      simp only [isInteger, Bool.and_eq_true, decide_eq_true_eq]
      omega
    · split at h
      · cases h
        simp only [isInteger, Bool.and_eq_true, decide_eq_true_eq]
        omega
      · exact absurd h notDouble
  · split at h
    · exact absurd h notDouble
    · split at h
      · exact absurd h notDouble
      · split at h
        · cases h
        · cases h

mutual

/-- A value that is spelled is in canonical form. -/
theorem Spells.canonical : ∀ {depth : Nat} {text : List Char} {j : Json},
    Spells depth text j → Canonical j
  | _, _, _, .null => .null
  | _, _, _, .yes => .bool _
  | _, _, _, .no => .bool _
  | _, _, _, .number (v := .int _) _ value => .int (Numeral.isInteger_of_number? value)
  | _, _, _, .number (v := .double d) _ _ => .double d
  | _, _, _, .string _ => .string _
  | _, _, _, .emptyArray _ => .array .nil
  | _, _, _, .array h => .array h.canonical
  | _, _, _, .emptyObject _ => .object .nil .nil
  | _, _, _, .object h => canonical_ofMembers h.canonical

theorem SpellsItems.canonical : ∀ {depth : Nat} {text : List Char} {items : List Json},
    SpellsItems depth text items → CanonicalItems items
  | _, _, _, .last _ h _ => .cons h.canonical .nil
  | _, _, _, .more _ h _ others => .cons h.canonical others.canonical

theorem SpellsMembers.canonical : ∀ {depth : Nat} {text : List Char}
    {members : List (String × Json)}, SpellsMembers depth text members → CanonicalMembers members
  | _, _, _, .last _ _ _ _ h _ => .cons h.canonical .nil
  | _, _, _, .more _ _ _ _ h _ others => .cons h.canonical others.canonical

end

/-! ## Depth -/

mutual

/-- A value is not nested more deeply than its text. -/
theorem Spells.depth_le : ∀ {depth : Nat} {text : List Char} {j : Json},
    Spells depth text j → j.depth ≤ depth
  | _, _, _, .null => Nat.zero_le _
  | _, _, _, .yes => Nat.zero_le _
  | _, _, _, .no => Nat.zero_le _
  | _, _, _, .number _ _ => Nat.zero_le _
  | _, _, _, .string _ => Nat.zero_le _
  | _, _, _, .emptyArray _ => Nat.succ_le_succ (Nat.zero_le _)
  | _, _, _, .array h => Nat.succ_le_succ h.depth_le
  | _, _, _, .emptyObject _ => Nat.succ_le_succ (Nat.zero_le _)
  | _, _, _, .object h => Nat.le_trans (depth_ofMembers_le _) (Nat.succ_le_succ h.depth_le)

theorem SpellsItems.depth_le : ∀ {depth : Nat} {text : List Char} {items : List Json},
    SpellsItems depth text items → depthItems items ≤ depth
  | _, _, _, .last _ h _ => Nat.max_le.2 ⟨h.depth_le, Nat.zero_le _⟩
  | _, _, _, .more _ h _ others => Nat.max_le.2 ⟨h.depth_le, others.depth_le⟩

theorem SpellsMembers.depth_le : ∀ {depth : Nat} {text : List Char}
    {members : List (String × Json)}, SpellsMembers depth text members →
    depthMembers members ≤ depth
  | _, _, _, .last _ _ _ _ h _ => Nat.max_le.2 ⟨h.depth_le, Nat.zero_le _⟩
  | _, _, _, .more _ _ _ _ h _ others => Nat.max_le.2 ⟨h.depth_le, others.depth_le⟩

end

end Turnstile.Json
