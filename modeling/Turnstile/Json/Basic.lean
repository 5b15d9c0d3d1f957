import Turnstile.Number.Double

/-!
JSON values. A number is an integer of at most 64 bits or a floating-point number; the members of an
object stand in the order of their names and no name occurs twice. Main statements: `ofMembers`
builds such objects (`pairwise_ofMembers`), and `Canonical` says of a whole value that it has this
form.
-/

namespace Turnstile

/-- A number of a JSON document. -/
inductive Json.Number
  | int (value : Int)
  | double (value : Double)
deriving DecidableEq

/-- A JSON value. -/
inductive Json
  | null
  | bool (value : Bool)
  | number (value : Json.Number)
  | string (value : String)
  | array (items : List Json)
  | object (members : List (String × Json))

namespace Json

instance : Inhabited Json := ⟨.null⟩

/-! ## Algorithm -/

/-- The integers that a JSON document writes without a fraction or an exponent: those of 64 bits,
signed or not. -/
def isInteger (i : Int) : Bool := -(Nat.pow 2 63 : Int) ≤ i && i < (Nat.pow 2 64 : Int)

/-- An integer value. -/
def int (i : Int) : Json := .number (.int i)

/-- A natural number as a value. -/
def nat (n : Nat) : Json := .number (.int n)

/-- Puts a member at its place among members sorted by name; a member of the same name is
replaced. -/
def putMember (name : String) (value : Json) : List (String × Json) → List (String × Json)
  | [] => [(name, value)]
  | (n, v) :: rest =>
    if name < n then (name, value) :: (n, v) :: rest
    else if name = n then (name, value) :: rest
    else (n, v) :: putMember name value rest

/-- The object of a list of members; of several members of one name the last is kept. -/
def ofMembers (members : List (String × Json)) : Json :=
  .object (members.foldl (fun sorted m => putMember m.1 m.2 sorted) [])

/-- The value of a text, or null. -/
def ofOption (value : Option String) : Json :=
  match value with
  | some s => .string s
  | none => .null

/-- The member of a name among members. -/
def findMember (name : String) : List (String × Json) → Option Json
  | [] => none
  | (n, v) :: rest => if n = name then some v else findMember name rest

/-- The member of a name; a value that is no object has none. -/
def get? (name : String) : Json → Option Json
  | .object members => findMember name members
  | _ => none

/-- Whether a value is null. -/
def isNull : Json → Bool
  | .null => true
  | _ => false

mutual

/-- The number of arrays and objects around the innermost value. -/
def depth : Json → Nat
  | .array items => depthItems items + 1
  | .object members => depthMembers members + 1
  | _ => 0

/-- The greatest depth among items. -/
def depthItems : List Json → Nat
  | [] => 0
  | j :: rest => max (depth j) (depthItems rest)

/-- The greatest depth among members. -/
def depthMembers : List (String × Json) → Nat
  | [] => 0
  | (_, j) :: rest => max (depth j) (depthMembers rest)

end

/-! ## Form -/

mutual

/-- A value in the form that reading produces: integers of 64 bits, members in order of their
names. -/
inductive Canonical : Json → Prop
  | null : Canonical .null
  | bool (b : Bool) : Canonical (.bool b)
  | int {i : Int} (h : isInteger i = true) : Canonical (.number (.int i))
  | double (d : Double) : Canonical (.number (.double d))
  | string (s : String) : Canonical (.string s)
  | array {items : List Json} (h : CanonicalItems items) : Canonical (.array items)
  | object {members : List (String × Json)} (sorted : members.Pairwise (fun a b => a.1 < b.1))
      (h : CanonicalMembers members) : Canonical (.object members)

/-- Every item is in canonical form. -/
inductive CanonicalItems : List Json → Prop
  | nil : CanonicalItems []
  | cons {j : Json} {rest : List Json} (h : Canonical j) (hs : CanonicalItems rest) :
      CanonicalItems (j :: rest)

/-- The value of every member is in canonical form. -/
inductive CanonicalMembers : List (String × Json) → Prop
  | nil : CanonicalMembers []
  | cons {name : String} {j : Json} {rest : List (String × Json)} (h : Canonical j)
      (hs : CanonicalMembers rest) : CanonicalMembers ((name, j) :: rest)

end

mutual

/-- Whether no floating-point number occurs in a value. -/
def noDouble : Json → Bool
  | .number (.double _) => false
  | .array items => noDoubleItems items
  | .object members => noDoubleMembers members
  | _ => true

/-- Whether no floating-point number occurs in any item. -/
def noDoubleItems : List Json → Bool
  | [] => true
  | j :: rest => noDouble j && noDoubleItems rest

/-- Whether no floating-point number occurs in any member. -/
def noDoubleMembers : List (String × Json) → Bool
  | [] => true
  | (_, j) :: rest => noDouble j && noDoubleMembers rest

end

/-! ## Lemmas -/

/-- The members after one was put in are that one and some of those that were there. -/
theorem mem_putMember {name : String} {value : Json} {m : String × Json}
    {members : List (String × Json)} (h : m ∈ putMember name value members) :
    m = (name, value) ∨ m ∈ members := by
  fun_induction putMember name value members with
  | case1 => exact .inl (List.mem_singleton.1 h)
  | case2 => exact List.mem_cons.1 h
  | case3 n v rest =>
    rcases List.mem_cons.1 h with here | there
    · exact .inl here
    · exact .inr (List.mem_cons_of_mem _ there)
  | case4 n v rest _ _ ih =>
    rcases List.mem_cons.1 h with here | there
    · exact .inr (by rw [here]; exact List.mem_cons_self)
    · rcases ih there with put | kept
      · exact .inl put
      · exact .inr (List.mem_cons_of_mem _ kept)

/-- Putting in a member keeps the order of the names. -/
theorem pairwise_putMember {name : String} {value : Json} {members : List (String × Json)}
    (h : members.Pairwise fun a b => a.1 < b.1) :
    (putMember name value members).Pairwise fun a b => a.1 < b.1 := by
  fun_induction putMember name value members with
  | case1 => simp
  | case2 n v rest before =>
    refine List.pairwise_cons.2 ⟨?_, h⟩
    intro m hm
    rcases List.mem_cons.1 hm with rfl | hm
    · exact before
    · exact String.lt_trans before ((List.pairwise_cons.1 h).1 m hm)
  | case3 v rest _ =>
    exact List.pairwise_cons.2 (List.pairwise_cons.1 h)
  | case4 n v rest notBefore different ih =>
    obtain ⟨first, others⟩ := List.pairwise_cons.1 h
    refine List.pairwise_cons.2 ⟨?_, ih others⟩
    intro m hm
    rcases mem_putMember hm with same | hm
    · rw [same]
      exact Std.lt_of_le_of_ne (String.not_lt.1 notBefore) (Ne.symm different)
    · exact first m hm

/-- The members of a built object stand in the order of their names. -/
theorem pairwise_ofMembers (members : List (String × Json)) :
    ∃ sorted, ofMembers members = .object sorted ∧ sorted.Pairwise fun a b => a.1 < b.1 := by
  refine ⟨_, rfl, ?_⟩
  suffices keeps : ∀ sorted : List (String × Json), sorted.Pairwise (fun a b => a.1 < b.1) →
      (members.foldl (fun sorted m => putMember m.1 m.2 sorted) sorted).Pairwise
        fun a b => a.1 < b.1 from keeps [] .nil
  induction members with
  | nil => exact fun _ h => h
  | cons m rest ih => exact fun sorted h => ih _ (pairwise_putMember h)

end Json

end Turnstile
