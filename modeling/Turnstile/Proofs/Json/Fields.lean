import Turnstile.Json.Decode
import Turnstile.Proofs.Json.Members

/-!
What is read of the fields of a record. Main statements: a record that is read is built from values
that were found for its fields (`Json.Fields.exists_build_of_decode`), each of which its own decoder
has read (`Schema.build_seq_eq_ok_iff`, `Schema.build_required_eq_ok_iff`); and a record whose
fields are read back one by one from the members of an object is read back from the object
(`Json.Fields.ReadsBack.decode_ofMembers`).
-/

namespace Turnstile

namespace Schema

variable {ω α β : Type} {found : String → Option ω} {b : β}

theorem build_map_eq_ok_iff {f : α → β} {fields : Schema ω α} :
    (f <$> fields).build found = .ok b ↔ ∃ a, fields.build found = .ok a ∧ f a = b :=
  map_eq_ok_iff

theorem build_seq_eq_ok_iff {first : Schema ω (α → β)} {second : Schema ω α} :
    (first <*> second).build found = .ok b ↔
      ∃ f, first.build found = .ok f ∧ ∃ a, second.build found = .ok a ∧ f a = b := by
  show ((first.build found).bind fun f => (second.build found).map f) = .ok b ↔ _
  rw [bind_eq_ok_iff]
  exact exists_congr fun f => and_congr_right fun _ => map_eq_ok_iff

theorem build_required_eq_ok_iff {name : String} {decode : Decoder ω β} :
    (required name decode).build found = .ok b ↔ ∃ w, found name = some w ∧ decode w = .ok b := by
  show (found name).elim (.error .mismatch) decode = .ok b ↔ _
  cases found name <;> simp

end Schema

namespace Json

variable {α : Type} {w : Written}

theorem Fields.exists_build_of_decode {fields : Fields α} {a : α} (h : fields.decode w = .ok a) :
    ∃ found, fields.build found = .ok a := by
  unfold Fields.decode at h
  split at h
  · obtain ⟨found, -, built⟩ := bind_eq_ok_iff.1 h
    exact ⟨_, built⟩
  · obtain ⟨found, -, built⟩ := bind_eq_ok_iff.1 h
    exact ⟨_, built⟩
  · unfold Decoder.refuse at h
    split at h <;> cases h

/-- The items of a list that is read have been read one by one. -/
theorem Decoder.exists_of_mem_list {decode : Decoder α} {as : List α} (h : list decode w = .ok as)
    {a : α} (mem : a ∈ as) : ∃ w, decode w = .ok a := by
  unfold Decoder.list at h
  split at h
  · rename_i items
    induction items generalizing as with
    | nil =>
      cases h
      cases mem
    | cons item items ih =>
      rw [List.mapM_cons] at h
      obtain ⟨first, read, rest⟩ := bind_eq_ok_iff.1 h
      obtain ⟨others, reads, same⟩ := bind_eq_ok_iff.1 rest
      cases same
      rcases List.mem_cons.1 mem with rfl | mem
      · exact ⟨item, read⟩
      · exact ih mem reads
  · unfold Decoder.refuse at h
    split at h <;> cases h

theorem Decoder.lt_of_natBelow {bound n : Nat} (h : natBelow bound w = .ok n) : n < bound := by
  unfold natBelow at h
  split at h
  · split at h
    · rename_i i range
      cases h
      omega
    · cases h
  · unfold Decoder.refuse at h
    split at h <;> cases h

theorem Decoder.string_ofJson (s : String) : string (.ofJson (.string s)) = .ok s := rfl

theorem Decoder.natBelow_ofJson {bound n : Nat} (h : n < bound) :
    natBelow bound (.ofJson (.nat n)) = .ok n := by
  have range : (0 : Int) ≤ n ∧ (n : Int) < bound := by omega
  rw [nat, Written.ofJson, natBelow, if_pos range, Int.toNat_natCast]

/-! ## Records read back -/

namespace Written

mutual

/-- No fault is met in a value. -/
theorem isSound_ofJson : ∀ j : Json, (ofJson j).isSound = true
  | .null => rfl
  | .bool _ => rfl
  | .number _ => rfl
  | .string _ => rfl
  | .array items => by rw [ofJson, isSound, allSound_ofItems items]
  | .object members => by rw [ofJson, isSound, allMembersSound_ofMembers members]

theorem allSound_ofItems : ∀ items : List Json, allSound (ofItems items) = true
  | [] => rfl
  | j :: rest => by rw [ofItems, allSound, isSound_ofJson j, allSound_ofItems rest, Bool.and_self]

theorem allMembersSound_ofMembers : ∀ members : List (String × Json),
    allMembersSound (ofMembers members) = true
  | [] => rfl
  | (name, j) :: rest => by
    rw [ofMembers, allMembersSound, isSound_ofJson j, allMembersSound_ofMembers rest, Bool.and_self]

end

end Written

namespace Fields

variable {β : Type} {members : List (String × Json)}

/-- Fields are read back from members as a record:

* `checked`: every field has a member that its decoder reads;
* `built`: the values of these members make the record. -/
structure ReadsBack (fields : Fields α) (members : List (String × Json)) (a : α) : Prop where
  checked : ∀ rule ∈ fields.rules, ∃ j, (rule.name, j) ∈ members ∧
    rule.check (Written.ofJson j) = .ok ()
  built : ∀ found : String → Option Written,
    (∀ rule ∈ fields.rules, ∀ j, (rule.name, j) ∈ members →
      found rule.name = some (Written.ofJson j)) →
    fields.build found = .ok a

section

variable {rules : List (FieldRule Written)} {found : List (String × Written)} {name : String}
  {j : Json}

/-- A member that no rule knows is passed over. -/
theorem gather_unknown (unknown : rules.find? (·.name = name) = none) :
    gather rules (Written.ofMembers ((name, j) :: members)) found =
      gather rules (Written.ofMembers members) found := by
  simp only [Written.ofMembers, gather, unknown, Written.isSound_ofJson, if_true]

/-- One that a rule knows is gathered if it passes its check. -/
theorem gather_known {rule : FieldRule Written} (known : rules.find? (·.name = name) = some rule)
    (fresh : ∀ f ∈ found, f.1 ≠ name) (passed : rule.check (Written.ofJson j) = .ok ()) :
    gather rules (Written.ofMembers ((name, j) :: members)) found =
      gather rules (Written.ofMembers members) ((name, Written.ofJson j) :: found) := by
  have unseen : found.any (·.1 = name) = false := by simpa using fresh
  simp only [Written.ofMembers, gather, known, unseen, passed]
  rfl

/-- The known members of an object are gathered if each of them passes its check. -/
theorem exists_gather (nodup : (members.map Prod.fst).Nodup)
    (fresh : ∀ m ∈ members, ∀ f ∈ found, f.1 ≠ m.1)
    (passes : ∀ rule ∈ rules, ∀ m ∈ members, m.1 = rule.name →
      rule.check (Written.ofJson m.2) = .ok ()) :
    ∃ gathered, gather rules (Written.ofMembers members) found = .ok gathered ∧
      (∀ name, (∀ m ∈ members, m.1 ≠ name) → gathered.lookup name = found.lookup name) ∧
      ∀ rule ∈ rules, ∀ j, (rule.name, j) ∈ members →
        gathered.lookup rule.name = some (Written.ofJson j) := by
  induction members generalizing found with
  | nil => exact ⟨found, rfl, fun _ _ => rfl, fun _ _ _ h => by cases h⟩
  | cons m rest ih =>
    obtain ⟨name, j⟩ := m
    rw [List.map_cons, List.nodup_cons] at nodup
    obtain ⟨alone, nodup⟩ := nodup
    have absent : ∀ m ∈ rest, m.1 ≠ name :=
      fun m mem same => alone (List.mem_map.2 ⟨m, mem, same⟩)
    have freshRest := fun m mem => fresh m (List.mem_cons_of_mem _ mem)
    have passesRest := fun rule known m mem => passes rule known m (List.mem_cons_of_mem _ mem)
    cases known : rules.find? (·.name = name) with
    | none =>
      have unknown : ∀ rule ∈ rules, rule.name ≠ name := by simpa using known
      obtain ⟨gathered, run, others, given⟩ := ih nodup freshRest passesRest
      refine ⟨gathered, (gather_unknown known).trans run, ?_, ?_⟩
      · exact fun other missing => others other fun m mem => missing m (List.mem_cons_of_mem _ mem)
      · intro rule mem value listed
        rcases List.mem_cons.1 listed with same | later
        · exact absurd (Prod.ext_iff.1 same).1 (unknown rule mem)
        · exact given rule mem value later
    | some rule =>
      have named : rule.name = name := by simpa using List.find?_some known
      have passed := passes rule (List.mem_of_find?_eq_some known) (name, j) List.mem_cons_self
        named.symm
      have unseen := fresh (name, j) List.mem_cons_self
      obtain ⟨gathered, run, others, given⟩ := @ih ((name, Written.ofJson j) :: found) nodup
        (fun m mem => List.forall_mem_cons.2 ⟨(absent m mem).symm, freshRest m mem⟩) passesRest
      refine ⟨gathered, (gather_known known unseen passed).trans run, ?_, ?_⟩
      · intro other missing
        have different : other ≠ name := (missing (name, j) List.mem_cons_self).symm
        rw [others other fun m mem => missing m (List.mem_cons_of_mem _ mem), List.lookup_cons,
          beq_false_of_ne different]
      · intro rule mem value listed
        rcases List.mem_cons.1 listed with same | later
        · cases same
          rw [others _ absent, List.lookup_cons_self]
        · exact given rule mem value later

end

namespace ReadsBack

theorem map {fields : Fields α} {a : α} (h : ReadsBack fields members a) (f : α → β) :
    ReadsBack (f <$> fields) members (f a) where
  checked := h.checked
  built found given := Schema.build_map_eq_ok_iff.2 ⟨a, h.built found given, rfl⟩

theorem seq {first : Fields (α → β)} {second : Fields α} {f : α → β} {a : α}
    (hf : ReadsBack first members f) (ha : ReadsBack second members a) :
    ReadsBack (first <*> second) members (f a) where
  checked rule mem := by
    rcases List.mem_append.1 mem with front | back
    · exact hf.checked rule front
    · exact ha.checked rule back
  built found given := by
    have front := hf.built found fun rule mem => given rule (List.mem_append_left _ mem)
    have back := ha.built found fun rule mem => given rule (List.mem_append_right _ mem)
    exact Schema.build_seq_eq_ok_iff.2 ⟨f, front, a, back, rfl⟩

theorem required {name : String} {decode : Decoder α} {j : Json} {a : α}
    (mem : (name, j) ∈ members) (read : decode (Written.ofJson j) = .ok a) :
    ReadsBack (.required name decode) members a where
  checked rule listed := by
    cases List.mem_singleton.1 listed
    refine ⟨j, mem, ?_⟩
    show (decode (Written.ofJson j)).map (fun _ => ()) = .ok ()
    rw [read]
    rfl
  built found given := Schema.build_required_eq_ok_iff.2
    ⟨Written.ofJson j, given _ (List.mem_singleton.2 rfl) j mem, read⟩

/-- A record whose fields are read back is read back. -/
theorem decode_ofMembers {fields : Fields α} {a : α} (h : ReadsBack fields members a)
    (nodup : (members.map Prod.fst).Nodup) :
    fields.decode (Written.ofJson (.ofMembers members)) = .ok a := by
  obtain ⟨sorted, built, pairwise, only, all⟩ := exists_ofMembers members
  have different : (sorted.map Prod.fst).Nodup :=
    (List.pairwise_map.2 pairwise).imp fun before => String.ne_of_lt before
  have passes : ∀ rule ∈ fields.rules, ∀ m ∈ sorted, m.1 = rule.name →
      rule.check (Written.ofJson m.2) = .ok () := by
    intro rule known m mem named
    obtain ⟨j, listed, passed⟩ := h.checked rule known
    have value := get?_ofMembers nodup (only m mem)
    rw [named, get?_ofMembers nodup listed] at value
    rw [← Option.some.inj value]
    exact passed
  have none : ∀ m ∈ sorted, ∀ f ∈ ([] : List (String × Written)), f.1 ≠ m.1 :=
    fun _ _ _ mem => absurd mem List.not_mem_nil
  obtain ⟨gathered, run, -, given⟩ := exists_gather different none passes
  rw [built, Written.ofJson, decode, run]
  exact h.built _ fun rule known j listed => given rule known j (all nodup _ listed)

end ReadsBack

end Fields

end Json

end Turnstile
