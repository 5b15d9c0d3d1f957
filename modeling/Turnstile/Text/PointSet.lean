/-!
Sets of code points that change rarely along the number line, as the properties of characters do.
Main statements: below its first point a set is empty (`holds_eq_false_of_lt`), and two points in
front add the stretch between them (`holds_cons_cons`).
-/

namespace Turnstile.Text

/-- A set of code points, given in ascending order by the points at which membership changes: the
first one is in the set, the second is the next one outside of it, and so on. -/
structure PointSet where
  changes : List Nat

namespace PointSet

/-! ## Algorithm -/

/-- Whether the stretches between the changes hold a number. -/
def holds : List Nat → Nat → Bool
  | [], _ => false
  | first :: rest, n => first ≤ n && !holds rest n

/-- Whether a character is in the set. -/
def contains (s : PointSet) (c : Char) : Bool := holds s.changes c.toNat

/-! ## Lemmas -/

theorem holds_eq_false_of_lt {first n : Nat} (rest : List Nat) (h : n < first) :
    holds (first :: rest) n = false := by
  simp [holds]
  omega

/-- Two changes in front add the numbers from the first to the second. -/
theorem holds_cons_cons (first stop : Nat) (rest : List Nat) (n : Nat) :
    holds (first :: stop :: rest) n = (first ≤ n && (n < stop || holds rest n)) := by
  simp only [holds, Bool.not_and, Bool.not_not]
  congr 2
  by_cases h : stop ≤ n
  · simp [h]
  · simp [h, Nat.lt_of_not_le h]

end PointSet

end Turnstile.Text
