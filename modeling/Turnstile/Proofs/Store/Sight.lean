import Turnstile.Proofs.Store.Journal

/-!
What can be seen of a store at a time: for each key its record, unless it has ended. What a call
answers and what is seen after it depend on what was seen before it and on nothing else, save the
number of records that a purge removes. Main statements: what has ended stays out of sight
(`later_later`), and a call concerns its own key only (`next_fst_of_ne`).
-/

namespace Turnstile.Store

/-- The record that is seen of each key. -/
abbrev Sight := String → Option Record

namespace Sight

/-! ## Algorithm -/

/-- What is still seen at a later time. -/
def later (v : Sight) (now : Instant) : Sight :=
  fun key => (v key).filter fun r => !r.isExpiredAt now

/-- Another record, or none, is seen of a key. -/
def put (v : Sight) (key : String) (r : Option Record) : Sight :=
  fun k => if k = key then r else v k

/-- A lease on a key. -/
def grant (v : Sight) (now : Instant) (key : String) (fresh : Token) (lease : Span)
    (answer : Token → Answer) : Sight × Attempt Answer :=
  match Record.pending? now key fresh lease with
  | some r => (v.put key (some r), .done (answer fresh))
  | none => (v, .overflow)

/-- What is seen after a call, and its answer. What a purge removes was out of sight before. -/
def next (v : Sight) (t : Timed) : Sight × Attempt Answer :=
  match t.call with
  | .claim key lease fresh =>
    match v key with
    | some existing => (v, .done (.claim (.conflict existing)))
    | none => v.grant t.now key fresh lease fun owner => .claim (.acquired owner)
  | .seize key lease fresh => v.grant t.now key fresh lease .owner
  | .complete key owner outcome window =>
    match v key with
    | some r =>
      if r.isOwnedBy owner && r.isPending then
        match t.now.deadline? window with
        | some ends =>
          (v.put key (some { r.withOutcome outcome with expiresAt := ends }),
            .done (.finality .applied))
        | none => (v.put key (some (r.withOutcome outcome)), .overflow)
      else (v, .done (.finality .stale))
    | none => (v, .done (.finality .stale))
  | .release key owner =>
    if (v key).any (·.isOwnedBy owner) then (v.put key none, .done (.finality .applied))
    else (v, .done (.finality .stale))
  | .read key => (v, .done (.record (v key)))
  | .purge => (v, .done (.count 0))

/-! ## Lemmas -/

@[simp]
theorem put_self (v : Sight) (key : String) (r : Option Record) : v.put key r key = r := by
  simp [put]

theorem put_of_ne (v : Sight) {key k : String} (r : Option Record) (h : k ≠ key) :
    v.put key r k = v k := by
  simp [put, h]

theorem put_put (v : Sight) (key : String) (r r' : Option Record) :
    (v.put key r).put key r' = v.put key r' := by
  funext k
  by_cases h : k = key <;> simp [put, h]

/-- What has ended stays out of sight. -/
theorem later_later (v : Sight) {earlier now : Instant} (h : earlier ≤ now) :
    (v.later earlier).later now = v.later now := by
  funext key
  rw [later, later, Option.filter_filter]
  congr 1
  funext r
  cases expired : r.isExpiredAt earlier with
  | false => simp
  | true =>
    have expired' : r.isExpiredAt now = true := le_trans (α := Instant) expired h
    simp [expired']

theorem later_put (v : Sight) (key : String) (r : Option Record) (now : Instant) :
    (v.put key r).later now = (v.later now).put key (r.filter fun r => !r.isExpiredAt now) := by
  funext k
  by_cases h : k = key <;> simp [later, put, h]

/-- A call concerns its own key only. -/
theorem next_fst_of_ne (v : Sight) (t : Timed) {k : String} (h : t.call.key? ≠ some k) :
    (v.next t).1 k = v k := by
  obtain ⟨now, call⟩ := t
  cases call with
  | claim key lease fresh =>
    have other : k ≠ key := fun e => h (by rw [e]; rfl)
    simp only [next, grant]
    split
    · rfl
    · split
      · exact v.put_of_ne _ other
      · rfl
  | seize key lease fresh =>
    have other : k ≠ key := fun e => h (by rw [e]; rfl)
    simp only [next, grant]
    split
    · exact v.put_of_ne _ other
    · rfl
  | complete key owner outcome window =>
    have other : k ≠ key := fun e => h (by rw [e]; rfl)
    simp only [next]
    split
    · split
      · split <;> exact v.put_of_ne _ other
      · rfl
    · rfl
  | release key owner =>
    have other : k ≠ key := fun e => h (by rw [e]; rfl)
    simp only [next]
    split
    · exact v.put_of_ne _ other
    · rfl
  | read key => rfl
  | purge => rfl

/-- A key of which nothing is seen stays so until it is granted. -/
theorem next_fst_of_none {v : Sight} {t : Timed} {k : String} (unseen : v k = none)
    (ungranting : t.call.fresh? = none) : (v.next t).1 k = none := by
  by_cases same : t.call.key? = some k
  · obtain ⟨now, call⟩ := t
    cases call with
    | claim key lease fresh => cases ungranting
    | seize key lease fresh => cases ungranting
    | complete key owner outcome window =>
      cases same
      simp [next, unseen]
    | release key owner =>
      cases same
      simp [next, unseen]
    | read key => exact unseen
    | purge => exact unseen
  · rw [v.next_fst_of_ne t same, unseen]

/-- An outcome is cached for the holder of a pending record, and for nobody else. -/
theorem snd_next_complete (v : Sight) {now : Instant} (key : String) (owner : Token)
    (outcome : Outcome) {window : Span} (inRange : window.InRange now) :
    (v.next ⟨now, .complete key owner outcome window⟩).2 =
      .done (.finality (if (v key).any (fun r => r.isOwnedBy owner && r.isPending) then .applied
        else .stale)) := by
  obtain ⟨ends, hends⟩ := inRange.exists_deadline?
  simp only [next, hends]
  cases v key with
  | none => rfl
  | some r =>
    simp only [Option.any_some]
    split <;> rfl

/-- A record is removed for its holder, and for nobody else. -/
theorem snd_next_release (v : Sight) (now : Instant) (key : String) (owner : Token) :
    (v.next ⟨now, .release key owner⟩).2 =
      .done (.finality (if (v key).any (·.isOwnedBy owner) then .applied else .stale)) := by
  simp only [next]
  split <;> rfl

/-- The end of a lease that was lost changes nothing. -/
theorem fst_next_of_stale {v : Sight} {t : Timed}
    (stale : (v.next t).2 = .done (.finality .stale)) : (v.next t).1 = v := by
  obtain ⟨now, call⟩ := t
  cases call with
  | claim key lease fresh =>
    simp only [next, grant] at stale
    split at stale
    · simp at stale
    · split at stale <;> simp at stale
  | seize key lease fresh =>
    simp only [next, grant] at stale
    split at stale <;> simp at stale
  | complete key owner outcome window =>
    simp only [next] at stale ⊢
    split
    · split
      · split <;> simp_all
      · rfl
    · rfl
  | release key owner =>
    simp only [next] at stale ⊢
    split
    · simp_all
    · rfl
  | read key => rfl
  | purge => rfl

end Sight

end Turnstile.Store
