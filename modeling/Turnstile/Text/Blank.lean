/-!
Blank characters and trimming. A character is blank when it has the Unicode property White_Space.
Main statement: a trimmed text neither starts nor ends with a blank (`not_isBlank_head?_trimChars`,
`not_isBlank_getLast?_trimChars`).
-/

namespace Turnstile.Text

/-! ## Algorithm -/

/-- The code points with the Unicode property White_Space. -/
def blankPoints : List Nat :=
  [0x09, 0x0A, 0x0B, 0x0C, 0x0D, 0x20, 0x85, 0xA0, 0x1680,
   0x2000, 0x2001, 0x2002, 0x2003, 0x2004, 0x2005, 0x2006, 0x2007, 0x2008, 0x2009, 0x200A,
   0x2028, 0x2029, 0x202F, 0x205F, 0x3000]

/-- Whether a character is white space in the sense of Unicode. -/
def isBlank (c : Char) : Bool := blankPoints.contains c.toNat

/-- Drops the blanks at both ends. -/
def trimChars (cs : List Char) : List Char :=
  ((cs.dropWhile isBlank).reverse.dropWhile isBlank).reverse

/-- The text without the blanks at its two ends. -/
def trim (s : String) : String := .ofList (trimChars s.toList)

/-- A text is blank when trimming leaves nothing. -/
def allBlank (s : String) : Bool := (trimChars s.toList).isEmpty

/-! ## Lemmas -/

/-- What is left after dropping a run of blanks does not start with a blank. -/
theorem not_isBlank_head?_dropWhile (cs : List Char) :
    ∀ c ∈ (cs.dropWhile isBlank).head?, isBlank c = false := by
  induction cs with
  | nil => simp
  | cons a cs ih =>
    cases h : isBlank a with
    | true => simpa [List.dropWhile_cons, h] using ih
    | false => simp [h]

/-- A list that does not start with a blank loses nothing. -/
theorem dropWhile_isBlank_of_head? {cs : List Char} (h : ∀ c ∈ cs.head?, isBlank c = false) :
    cs.dropWhile isBlank = cs := by
  cases cs with
  | nil => rfl
  | cons a cs => simp [h a (by simp)]

/-- A trimmed text does not end with a blank. -/
theorem not_isBlank_getLast?_trimChars (cs : List Char) :
    ∀ c ∈ (trimChars cs).getLast?, isBlank c = false := by
  rw [trimChars, List.getLast?_reverse]
  exact not_isBlank_head?_dropWhile _

/-- A trimmed text does not start with a blank. -/
theorem not_isBlank_head?_trimChars (cs : List Char) :
    ∀ c ∈ (trimChars cs).head?, isBlank c = false := by
  intro c hc
  rw [trimChars, List.head?_reverse] at hc
  obtain ⟨front, split⟩ := List.dropWhile_suffix isBlank (l := (cs.dropWhile isBlank).reverse)
  have last : c ∈ ((cs.dropWhile isBlank).reverse).getLast? := by
    rw [← split, List.getLast?_append, Option.mem_def.1 hc]
    rfl
  rw [List.getLast?_reverse] at last
  exact not_isBlank_head?_dropWhile cs c last

end Turnstile.Text
