/-!
Masking of client-supplied identifiers before they reach a log line or another caller. Main
statements: a masked text has as many characters as the text (`length_maskChars`), and unless it is
hidden completely its two ends are those of the text (`take_maskChars`, `drop_maskChars`).
-/

namespace Turnstile.Text

/-! ## Algorithm -/

/-- The character written in place of a hidden one. -/
def maskChar : Char := '*'

/-- Keeps the first and the last `shown` characters and hides the rest; a text that has nothing
between its two ends is hidden completely. -/
def maskChars (shown : Nat) (cs : List Char) : List Char :=
  if cs.length ≤ shown * 2 then
    List.replicate cs.length maskChar
  else
    cs.take shown ++ List.replicate (cs.length - shown * 2) maskChar ++ cs.drop (cs.length - shown)

/-- The masked form of a text. -/
def mask (shown : Nat) (s : String) : String := .ofList (maskChars shown s.toList)

/-- The masked form of a text, as long as the characters shown at both ends can be counted in 64
bits. -/
def mask? (shown : Nat) (s : String) : Option String :=
  if shown * 2 < Nat.pow 2 64 then some (mask shown s) else none

/-- What is said of a count of shown characters that is too large. -/
def maskOverflow : String := "attempt to multiply with overflow"

/-- The masked form of a client key: four characters at either end stay readable. -/
def maskKey (key : String) : String := mask 4 key

/-! ## Lemmas -/

@[simp]
theorem length_maskChars (shown : Nat) (cs : List Char) :
    (maskChars shown cs).length = cs.length := by
  unfold maskChars
  split
  · simp
  · simp only [List.length_append, List.length_take, List.length_replicate, List.length_drop]
    omega

/-- A text that is not hidden completely keeps its first characters. -/
theorem take_maskChars {shown : Nat} {cs : List Char} (h : shown * 2 < cs.length) :
    (maskChars shown cs).take shown = cs.take shown := by
  have long : (cs.take shown).length = shown := by simp; omega
  rw [maskChars, if_neg (by omega), List.append_assoc, List.take_left' long]

/-- A text that is not hidden completely keeps its last characters. -/
theorem drop_maskChars {shown : Nat} {cs : List Char} (h : shown * 2 < cs.length) :
    (maskChars shown cs).drop (cs.length - shown) = cs.drop (cs.length - shown) := by
  rw [maskChars, if_neg (by omega)]
  exact List.drop_left' (by simp; omega)

end Turnstile.Text
