import Turnstile.Json.Decode

/-!
The depth of JSON as it stands in a text. Main statements: what is not nested too deeply is kept
whole (`Written.bounded_of_depth_le`), and what is nested too deeply has no meaning
(`Written.depth_le_of_json_bounded`).
-/

namespace Turnstile.Json

namespace Written

mutual

/-- The number of arrays and objects around the innermost value. -/
def depth : Written → Nat
  | .array items => depthItems items + 1
  | .object members => depthMembers members + 1
  | _ => 0

/-- The greatest depth among items. -/
def depthItems : List Written → Nat
  | [] => 0
  | w :: rest => max (depth w) (depthItems rest)

/-- The greatest depth among members. -/
def depthMembers : List (Option String × Written) → Nat
  | [] => 0
  | (_, w) :: rest => max (depth w) (depthMembers rest)

end

/-! ## Values that are kept -/

mutual

/-- A value that is not nested too deeply stays as it is. -/
theorem bounded_of_depth_le : ∀ (w : Written) (budget : Nat), w.depth ≤ budget →
    bounded budget w = w
  | .null, budget, _ => by cases budget <;> rfl
  | .bool b, budget, _ => by cases budget <;> rfl
  | .number n, budget, _ => by cases budget <;> rfl
  | .string s, budget, _ => by cases budget <;> rfl
  | .unfit, budget, _ => by cases budget <;> rfl
  | .fault, budget, _ => by cases budget <;> rfl
  | .array items, budget, shallow => by
    rw [depth] at shallow
    obtain ⟨budget, rfl⟩ : ∃ k, budget = k + 1 := ⟨budget - 1, by omega⟩
    rw [bounded, boundedItems_of_depth_le items budget (Nat.le_of_succ_le_succ shallow)]
  | .object members, budget, shallow => by
    rw [depth] at shallow
    obtain ⟨budget, rfl⟩ : ∃ k, budget = k + 1 := ⟨budget - 1, by omega⟩
    rw [bounded, boundedMembers_of_depth_le members budget (Nat.le_of_succ_le_succ shallow)]

theorem boundedItems_of_depth_le : ∀ (items : List Written) (budget : Nat),
    depthItems items ≤ budget → boundedItems budget items = items
  | [], _, _ => rfl
  | w :: rest, budget, shallow => by
    rw [depthItems] at shallow
    rw [boundedItems, bounded_of_depth_le w budget (by omega),
      boundedItems_of_depth_le rest budget (by omega)]

theorem boundedMembers_of_depth_le : ∀ (members : List (Option String × Written)) (budget : Nat),
    depthMembers members ≤ budget → boundedMembers budget members = members
  | [], _, _ => rfl
  | (name, w) :: rest, budget, shallow => by
    rw [depthMembers] at shallow
    rw [boundedMembers, bounded_of_depth_le w budget (by omega),
      boundedMembers_of_depth_le rest budget (by omega)]

end

/-! ## Values that are cut -/

/-- Two answers in a row make one when there are both. -/
theorem bind_map_eq_ok_iff {α β γ : Type} {first : Except Misread α} {second : Except Misread β}
    {f : α → β → γ} {c : γ} :
    ((first.bind fun a => second.map (f a)) = .ok c) ↔
      ∃ a b, first = .ok a ∧ second = .ok b ∧ f a b = c := by
  cases first <;> cases second <;> simp [Except.bind, Except.map]

mutual

/-- A value that has a meaning after it was cut is not nested too deeply. -/
theorem depth_le_of_json_bounded : ∀ (w : Written) (budget : Nat) (j : Json),
    Decoder.json (bounded budget w) = .ok j → w.depth ≤ budget
  | .null, _, _, _ => Nat.zero_le _
  | .bool _, _, _, _ => Nat.zero_le _
  | .number _, _, _, _ => Nat.zero_le _
  | .string _, _, _, _ => Nat.zero_le _
  | .unfit, _, _, _ => Nat.zero_le _
  | .fault, _, _, _ => Nat.zero_le _
  | .array items, 0, j, read => by
    rw [bounded] at read
    split at read <;> cases read
  | .object members, 0, j, read => by
    rw [bounded] at read
    split at read <;> cases read
  | .array items, budget + 1, j, read => by
    rw [bounded, Decoder.json] at read
    cases inner : Decoder.jsonItems (boundedItems budget items) with
    | error fault => rw [inner] at read; cases read
    | ok js => exact Nat.succ_le_succ (depthItems_le_of_json_bounded items budget js inner)
  | .object members, budget + 1, j, read => by
    rw [bounded, Decoder.json] at read
    cases inner : Decoder.jsonMembers (boundedMembers budget members) with
    | error fault => rw [inner] at read; cases read
    | ok js => exact Nat.succ_le_succ (depthMembers_le_of_json_bounded members budget js inner)

theorem depthItems_le_of_json_bounded : ∀ (items : List Written) (budget : Nat) (js : List Json),
    Decoder.jsonItems (boundedItems budget items) = .ok js → depthItems items ≤ budget
  | [], _, _, _ => Nat.zero_le _
  | w :: rest, budget, js, read => by
    rw [boundedItems, Decoder.jsonItems, bind_map_eq_ok_iff] at read
    obtain ⟨j, others, first, second, -⟩ := read
    exact Nat.max_le.2 ⟨depth_le_of_json_bounded w budget j first,
      depthItems_le_of_json_bounded rest budget others second⟩

theorem depthMembers_le_of_json_bounded : ∀ (members : List (Option String × Written))
    (budget : Nat) (js : List (String × Json)),
    Decoder.jsonMembers (boundedMembers budget members) = .ok js → depthMembers members ≤ budget
  | [], _, _, _ => Nat.zero_le _
  | (none, w) :: rest, budget, js, read => by cases read
  | (some name, w) :: rest, budget, js, read => by
    rw [boundedMembers, Decoder.jsonMembers, bind_map_eq_ok_iff] at read
    obtain ⟨j, others, first, second, -⟩ := read
    exact Nat.max_le.2 ⟨depth_le_of_json_bounded w budget j first,
      depthMembers_le_of_json_bounded rest budget others second⟩

end

end Written

end Turnstile.Json
