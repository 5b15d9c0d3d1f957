import Mathlib.Data.List.Basic
import Turnstile.Text.Blank

/-!
Texts joined by a separator. Parts that are not empty and have no blanks at their ends can be told
from the joined text, unless a part that a separator follows can be taken for a shorter part, a
separator and the start of the next one. Main statements: equal joined texts of equally many parts
that cannot be severed so have equal parts (`eq_of_intercalate_eq`), and if one of the parts can,
there are other parts with the same joined text (`exists_intercalate_eq`).
-/

namespace Turnstile.Text

/-! ## Parts -/

/-- A text that is not empty and has no blanks at its ends. -/
structure Solid (cs : List Char) : Prop where
  ne_nil : cs ≠ []
  head : ∀ c ∈ cs.head?, isBlank c = false
  last : ∀ c ∈ cs.getLast?, isBlank c = false

/-- A text can be severed in front of a separator: with the separator behind it, it reads as a
shorter text, the separator and a rest, and no blank stands where they meet the separator. -/
def Severable (separator cs : List Char) : Prop :=
  ∃ front back, front ≠ [] ∧ back ≠ [] ∧ cs ++ separator = front ++ (separator ++ back) ∧
    (∀ c ∈ front.getLast?, isBlank c = false) ∧ ∀ c ∈ back.head?, isBlank c = false

/-- A text in which the first character of a separator does not occur cannot be severed in front of
it. -/
theorem not_severable_of_notMem {c : Char} {separator cs : List Char} (absent : c ∉ cs) :
    ¬Severable (c :: separator) cs := by
  rintro ⟨front, back, -, ne_nil, cut, -, -⟩
  have some_char := List.length_pos_iff.2 ne_nil
  rcases List.append_eq_append_iff.1 cut with ⟨more, -, rest⟩ | ⟨more, rfl, rest⟩
  · have length := congrArg List.length rest
    simp only [List.length_append, List.length_cons] at length
    omega
  · cases more with
    | nil =>
      have length := congrArg List.length rest
      simp only [List.length_append, List.length_cons, List.nil_append] at length
      omega
    | cons d more =>
      have first : c = d := (List.cons.inj rest).1
      exact absent (by simp [first])

namespace Solid

theorem trimChars_eq {cs : List Char} (h : Solid cs) : trimChars cs = cs := by
  have ends : ∀ c ∈ cs.reverse.head?, isBlank c = false := by
    rw [List.head?_reverse]
    exact h.last
  rw [trimChars, dropWhile_isBlank_of_head? h.head, dropWhile_isBlank_of_head? ends,
    List.reverse_reverse]

theorem trimChars {cs : List Char} (visible : trimChars cs ≠ []) : Solid (trimChars cs) :=
  ⟨visible, not_isBlank_head?_trimChars cs, not_isBlank_getLast?_trimChars cs⟩

/-- A text without blanks. -/
theorem of_all {cs : List Char} (ne_nil : cs ≠ []) (h : (cs.all fun c => !isBlank c) = true) :
    Solid cs := by
  have visible : ∀ c ∈ cs, isBlank c = false := by simpa using h
  exact ⟨ne_nil, fun c hc => visible c (List.mem_of_head? hc),
    fun c hc => visible c (List.mem_of_getLast? hc)⟩

/-- Two texts and whatever stands between them. -/
theorem around {cs ds : List Char} (solid : Solid cs) (solid' : Solid ds) (middle : List Char) :
    Solid (cs ++ (middle ++ ds)) := by
  refine ⟨by simp [solid.ne_nil], ?_, ?_⟩
  · rw [List.head?_append_of_ne_nil _ solid.ne_nil]
    exact solid.head
  · rw [← List.append_assoc, List.getLast?_append_of_ne_nil _ solid'.ne_nil]
    exact solid'.last

end Solid

/-- Trimming leaves a text as it is, and something of it. -/
theorem solid_iff {cs : List Char} : Solid cs ↔ cs ≠ [] ∧ Text.trimChars cs = cs := by
  constructor
  · exact fun solid => ⟨solid.ne_nil, solid.trimChars_eq⟩
  · rintro ⟨visible, kept⟩
    rw [← kept] at visible ⊢
    exact .trimChars visible

/-! ## Joining -/

variable {separator : List Char}

/-- Parts that are not empty and have no blanks at their ends join to such a text, whatever the
separator is. -/
theorem Solid.intercalate {ps : List (List Char)} (given : ps ≠ []) (solid : ∀ p ∈ ps, Solid p) :
    Solid (separator.intercalate ps) := by
  induction ps with
  | nil => exact absurd rfl given
  | cons p ps ih =>
    rw [List.forall_mem_cons] at solid
    cases ps with
    | nil => simpa using solid.1
    | cons q qs =>
      rw [List.intercalate_cons_cons, List.append_assoc]
      exact solid.1.around (ih (by simp) solid.2) separator

/-- The joined text of parts starts as the first one does. -/
theorem not_isBlank_head?_intercalate {p : List Char} {ps : List (List Char)} (solid : Solid p) :
    ∀ c ∈ (separator.intercalate (p :: ps)).head?, isBlank c = false := by
  cases ps with
  | nil => simpa using solid.head
  | cons q qs =>
    rw [List.intercalate_cons_cons, List.append_assoc, List.head?_append_of_ne_nil _ solid.ne_nil]
    exact solid.head

/-- Two texts around a character make one text if they are the same, or if the character stands
once more in the first of one pair and the second of the other. -/
theorem append_cons_eq_append_cons_iff {c : Char} {a b a' b' : List Char} :
    a ++ c :: b = a' ++ c :: b' ↔
      (a = a' ∧ b = b') ∨ (∃ w, a = a' ++ c :: w ∧ b' = w ++ c :: b) ∨
        ∃ w, a' = a ++ c :: w ∧ b = w ++ c :: b' := by
  constructor
  · intro same
    rcases List.append_eq_append_iff.1 same with ⟨w, rfl, rest⟩ | ⟨w, rfl, rest⟩
    · cases w with
      | nil => exact .inl ⟨by simp, (List.cons.inj rest).2⟩
      | cons d w =>
        obtain ⟨rfl, rfl⟩ := List.cons.inj rest
        exact .inr (.inr ⟨w, rfl, rfl⟩)
    · cases w with
      | nil => exact .inl ⟨by simp, (List.cons.inj rest).2.symm⟩
      | cons d w =>
        obtain ⟨rfl, rfl⟩ := List.cons.inj rest
        exact .inr (.inl ⟨w, rfl, rfl⟩)
  · rintro (⟨rfl, rfl⟩ | ⟨w, rfl, rfl⟩ | ⟨w, rfl, rfl⟩) <;> simp

/-- If a longer part stands where another list of parts has a shorter one, it can be severed. -/
theorem severable_of_append {p more rest rest' : List Char} (solid : Solid p) (longer : more ≠ [])
    (same : separator ++ rest = more ++ (separator ++ rest'))
    (head : ∀ c ∈ rest.head?, isBlank c = false) : Severable separator (p ++ more) := by
  -- the rest starts with what the separator pushes out of the longer part
  obtain ⟨back, moved, rfl⟩ :
      ∃ back, more ++ separator = separator ++ back ∧ rest = back ++ rest' := by
    rw [← List.append_assoc] at same
    rcases List.append_eq_append_iff.1 same with ⟨back, moved, rest⟩ | ⟨cut, moved, -⟩
    · exact ⟨back, moved, rest⟩
    · have length := congrArg List.length moved
      have some_char := List.length_pos_iff.2 longer
      simp only [List.length_append] at length
      omega
  have ne_nil : back ≠ [] := by
    rintro rfl
    have length := congrArg List.length moved
    have some_char := List.length_pos_iff.2 longer
    simp only [List.length_append, List.length_nil] at length
    omega
  refine ⟨p, back, solid.ne_nil, ne_nil, by rw [List.append_assoc, moved], solid.last, ?_⟩
  rwa [List.head?_append_of_ne_nil _ ne_nil] at head

/-- Equal joined texts of equally many parts have equal parts, if no part in front of a separator
can be severed. -/
theorem eq_of_intercalate_eq {ps qs : List (List Char)} (length : ps.length = qs.length)
    (solid : ∀ p ∈ ps, Solid p) (solid' : ∀ q ∈ qs, Solid q)
    (whole : ∀ p ∈ ps.dropLast, ¬Severable separator p)
    (whole' : ∀ q ∈ qs.dropLast, ¬Severable separator q)
    (same : separator.intercalate ps = separator.intercalate qs) : ps = qs := by
  induction ps generalizing qs with
  | nil => exact (List.length_eq_zero_iff.1 length.symm).symm
  | cons p ps ih =>
    obtain ⟨q, qs, rfl⟩ := List.exists_cons_of_length_eq_add_one length.symm
    cases ps with
    | nil =>
      have none_left : qs = [] := List.length_eq_zero_iff.1 (by simpa using length.symm)
      subst none_left
      simpa using same
    | cons p' ps =>
      obtain ⟨q', qs, rfl⟩ := List.exists_cons_of_length_eq_add_one
        (show qs.length = ps.length + 1 by simpa using length.symm)
      simp only [List.intercalate_cons_cons, List.append_assoc] at same
      simp only [List.dropLast_cons_cons, List.forall_mem_cons] at solid solid' whole whole'
      have head : p = q := by
        rcases List.append_eq_append_iff.1 same with ⟨more, rfl, later⟩ | ⟨more, rfl, later⟩
        · by_contra longer
          exact whole'.1 (severable_of_append solid.1 (by simpa using longer) later
            (not_isBlank_head?_intercalate solid.2.1))
        · by_contra longer
          exact whole.1 (severable_of_append solid'.1 (by simpa using longer) later
            (not_isBlank_head?_intercalate solid'.2.1))
      subst head
      have rest := List.append_cancel_left (List.append_cancel_left same)
      rw [ih (by simpa using length) (by simpa using solid.2) (by simpa using solid'.2) whole.2
        whole'.2 rest]

/-- If a part in front of a separator can be severed, other parts have the same joined text. -/
theorem exists_intercalate_eq {ps : List (List Char)} (solid : ∀ p ∈ ps, Solid p) {p : List Char}
    (mem : p ∈ ps.dropLast) (severable : Severable separator p) :
    ∃ qs : List (List Char), qs.length = ps.length ∧ (∀ q ∈ qs, Solid q) ∧
      separator.intercalate qs = separator.intercalate ps ∧ qs ≠ ps := by
  induction ps with
  | nil => cases mem
  | cons first ps ih =>
    cases ps with
    | nil => cases mem
    | cons second ps =>
      simp only [List.forall_mem_cons] at solid
      obtain ⟨solidFirst, solidSecond, solidRest⟩ := solid
      rw [List.dropLast_cons_cons] at mem
      rcases List.mem_cons.1 mem with rfl | mem
      · -- the first part is cut, and its end goes to the second one
        obtain ⟨front, back, front_ne, back_ne, cut, last, head⟩ := severable
        refine ⟨front :: (back ++ second) :: ps, rfl, ?_, ?_, ?_⟩
        · have solidFront : Solid front := by
            refine ⟨front_ne, ?_, last⟩
            have begins := congrArg List.head? cut
            rw [List.head?_append_of_ne_nil _ solidFirst.ne_nil,
              List.head?_append_of_ne_nil _ front_ne] at begins
            exact begins ▸ solidFirst.head
          have solidBack : Solid (back ++ second) := by
            refine ⟨by simp [back_ne], ?_, ?_⟩
            · rw [List.head?_append_of_ne_nil _ back_ne]
              exact head
            · rw [List.getLast?_append_of_ne_nil _ solidSecond.ne_nil]
              exact solidSecond.last
          simp only [List.forall_mem_cons]
          exact ⟨solidFront, solidBack, solidRest⟩
        · have moved : separator.intercalate ((back ++ second) :: ps) =
              back ++ separator.intercalate (second :: ps) := by
            cases ps <;> simp
          rw [List.intercalate_cons_cons, List.intercalate_cons_cons, moved, cut]
          simp
        · intro same
          have uncut : front = p := (List.cons.inj same).1
          have length := congrArg List.length cut
          have some_char := List.length_pos_iff.2 back_ne
          simp only [uncut, List.length_append] at length
          omega
      · obtain ⟨qs, length, solid', same, other⟩ :=
          ih (by simpa using ⟨solidSecond, solidRest⟩) mem
        obtain ⟨q, qs, rfl⟩ := List.exists_cons_of_length_eq_add_one length
        refine ⟨first :: q :: qs, by simpa using length, ?_, ?_, by simpa using other⟩
        · rw [List.forall_mem_cons]
          exact ⟨solidFirst, solid'⟩
        · rw [List.intercalate_cons_cons, List.intercalate_cons_cons, same]

end Turnstile.Text
