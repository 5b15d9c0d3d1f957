/-!
Texts cut at each occurrence of a mark. Main statements: there is one part more than there are marks
(`length_splitAt`), and no part holds the mark (`not_mem_of_mem_splitAt`).
-/

namespace Turnstile.Text

/-! ## Algorithm -/

/-- The parts of a text between the occurrences of a mark. -/
def splitAt (mark : Char) : List Char → List (List Char)
  | [] => [[]]
  | c :: cs =>
    if c = mark then [] :: splitAt mark cs
    else match splitAt mark cs with
      | part :: parts => (c :: part) :: parts
      | [] => [[c]]

/-- The lines of a text, whose line ends are single characters. -/
def linesOf (cs : List Char) : List (List Char) := splitAt '\n' cs

/-- The text of some lines. -/
def joinLines (lines : List (List Char)) : List Char := (lines.intersperse ['\n']).flatten

/-- A text in which all line ends are single characters: a carriage return counts as one, alone or
with a line feed. -/
def unifyLineEnds : List Char → List Char
  | '\r' :: '\n' :: cs => '\n' :: unifyLineEnds cs
  | '\r' :: cs => '\n' :: unifyLineEnds cs
  | c :: cs => c :: unifyLineEnds cs
  | [] => []

/-! ## Lemmas -/

theorem splitAt_ne_nil (mark : Char) (cs : List Char) : splitAt mark cs ≠ [] := by
  cases cs with
  | nil => simp [splitAt]
  | cons c cs =>
    rw [splitAt]
    split
    · simp
    · split <;> simp

theorem length_splitAt (mark : Char) (cs : List Char) :
    (splitAt mark cs).length = cs.count mark + 1 := by
  induction cs with
  | nil => rfl
  | cons c cs ih =>
    by_cases h : c = mark
    · subst h
      simp [splitAt, ih]
    · obtain ⟨part, parts, split⟩ := List.exists_cons_of_ne_nil (splitAt_ne_nil mark cs)
      rw [split] at ih
      have same : List.count mark (c :: cs) = List.count mark cs := List.count_cons_of_ne h
      simpa [splitAt, h, split, same] using ih

theorem not_mem_of_mem_splitAt {mark : Char} {cs part : List Char} (h : part ∈ splitAt mark cs) :
    mark ∉ part := by
  induction cs generalizing part with
  | nil => simp_all [splitAt]
  | cons c cs ih =>
    by_cases hc : c = mark
    · subst hc
      simp only [splitAt, if_true, List.mem_cons] at h
      rcases h with rfl | h
      · simp
      · exact ih h
    · obtain ⟨first, parts, split⟩ := List.exists_cons_of_ne_nil (splitAt_ne_nil mark cs)
      simp only [splitAt, hc, if_false, split, List.mem_cons] at h
      rcases h with rfl | h
      · have absent : mark ∉ first := ih (by simp [split])
        simp [absent, Ne.symm hc]
      · exact ih (by simp [split, h])

end Turnstile.Text
