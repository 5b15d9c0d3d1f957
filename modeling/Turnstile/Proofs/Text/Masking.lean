import Turnstile.Text.Mask

/-!
What a masked text shows. Main statements: every character is that of the text or the one written in
place of it, and its place alone decides which (`getElem?_maskChars`); so two texts are masked alike
exactly if they are of one length and, unless they are hidden completely, have the same ends
(`mask_eq_mask_iff`).
-/

namespace Turnstile.Text

/-- Of one length, and with the same characters at both ends if there is something between them. -/
structure Alike (shown : Nat) (s t : String) : Prop where
  length : s.toList.length = t.toList.length
  ends : shown * 2 < s.toList.length →
    s.toList.take shown = t.toList.take shown ∧
      s.toList.drop (s.toList.length - shown) = t.toList.drop (t.toList.length - shown)

variable {shown : Nat}

/-- A character is shown at the ends of a text that has something between them. -/
theorem getElem?_maskChars {cs : List Char} {i : Nat} (h : i < cs.length) :
    (maskChars shown cs)[i]? =
      if shown * 2 < cs.length ∧ (i < shown ∨ cs.length - shown ≤ i) then cs[i]?
      else some maskChar := by
  unfold maskChars
  by_cases hidden : cs.length ≤ shown * 2
  · have short : ¬shown * 2 < cs.length := Nat.not_lt.2 hidden
    rw [if_pos hidden, if_neg fun both => short both.1, List.getElem?_replicate, if_pos h]
  · have long : shown * 2 < cs.length := Nat.not_le.1 hidden
    have front : (cs.take shown).length = shown := by
      rw [List.length_take]
      omega
    rw [if_neg hidden, List.append_assoc]
    by_cases first : i < shown
    · rw [if_pos ⟨long, .inl first⟩, List.getElem?_append_left (by omega),
        List.getElem?_take_of_lt first]
    · rw [List.getElem?_append_right (by omega), front]
      by_cases last : cs.length - shown ≤ i
      · rw [if_pos ⟨long, .inr last⟩, List.getElem?_append_right (by simp; omega),
          List.length_replicate, List.getElem?_drop]
        congr 1
        omega
      · have between : ¬(shown * 2 < cs.length ∧ (i < shown ∨ cs.length - shown ≤ i)) := by
          omega
        rw [if_neg between, List.getElem?_append_left (by simp; omega), List.getElem?_replicate,
          if_pos (by omega)]

theorem toList_mask (s : String) : (mask shown s).toList = maskChars shown s.toList :=
  String.toList_ofList

/-- Texts are masked alike exactly if they are alike. -/
theorem mask_eq_mask_iff {s t : String} : mask shown s = mask shown t ↔ Alike shown s t := by
  constructor
  · intro same
    have chars : maskChars shown s.toList = maskChars shown t.toList := by
      rw [← toList_mask, ← toList_mask, same]
    have length : s.toList.length = t.toList.length := by
      rw [← length_maskChars shown s.toList, chars, length_maskChars]
    refine ⟨length, fun long => ?_⟩
    have long' : shown * 2 < t.toList.length := length ▸ long
    constructor
    · rw [← take_maskChars long, chars, take_maskChars long']
    · rw [← drop_maskChars long, chars, length, drop_maskChars long']
  · intro alike
    have chars : maskChars shown s.toList = maskChars shown t.toList := by
      unfold maskChars
      by_cases hidden : s.toList.length ≤ shown * 2
      · rw [if_pos hidden, if_pos (alike.length ▸ hidden), alike.length]
      · obtain ⟨first, last⟩ := alike.ends (Nat.not_le.1 hidden)
        rw [if_neg hidden, if_neg (alike.length ▸ hidden), first, last, alike.length]
    rw [mask, mask, chars]

/-- Eight characters are hidden, of nine the one in the middle is. -/
example : maskKey "12345678" = "********" ∧ maskKey "clé-é-clé" = "clé-*-clé" := by
  decide +kernel

end Turnstile.Text
