import Mathlib.Data.List.Induction
import Turnstile.Proofs.Time.Order
import Turnstile.Store.Basic

/-!
Journals: the calls that a store took, one after the other, each with its time and its answer. A
journaled store is the store itself with a journal beside its state; what it answers does not depend
on the journal. Main statement: every step of a journaled store adds its own call to the journal and
nothing else (`state_claim_journaled` and its companions).
-/

namespace Turnstile

/-- An attempt with another value. -/
def Attempt.map {α β : Type} (f : α → β) : Attempt α → Attempt β
  | .done a => .done (f a)
  | .failed fault => .failed fault
  | .overflow => .overflow

namespace Attempt

variable {α β : Type} {f : α → β} {a : Attempt α}

theorem map_eq_done_iff {b : β} : a.map f = .done b ↔ ∃ x, a = .done x ∧ f x = b := by
  cases a <;> simp [map]

theorem map_eq_failed_iff {fault : Fault} : a.map f = .failed fault ↔ a = .failed fault := by
  cases a <;> simp [map]

end Attempt

namespace Store

/-! ## Calls -/

/-- A call of a store. A call that may grant a lease brings the token for it. -/
inductive Call
  | claim (key : String) (lease : Span) (fresh : Token)
  | seize (key : String) (lease : Span) (fresh : Token)
  | complete (key : String) (owner : Token) (outcome : Outcome) (window : Span)
  | release (key : String) (owner : Token)
  | read (key : String)
  | purge

/-- The key that a call is about; a purge is about none. -/
def Call.key? : Call → Option String
  | .claim key _ _ | .seize key _ _ | .complete key _ _ _ | .release key _ | .read key => some key
  | .purge => none

/-- What a call answers. -/
inductive Answer
  | claim (value : Claim)
  | owner (value : Token)
  | finality (value : Finality)
  | record (value : Option Record)
  | count (value : Nat)

/-- A call and the time at which the store takes it. -/
structure Timed where
  now : Instant
  call : Call

/-- A call that was taken, with its answer. -/
structure Entry extends Timed where
  answer : Attempt Answer

/-- The validity window that a call asks for. -/
def Call.window? : Call → Option Span
  | .claim _ lease _ | .seize _ lease _ => some lease
  | .complete _ _ _ window => some window
  | _ => none

/-- The token whose lease a call ends. -/
def Call.finalizes? : Call → Option Token
  | .complete _ owner _ _ | .release _ owner => some owner
  | _ => none

/-- The token that a call brings for a lease. -/
def Call.fresh? : Call → Option Token
  | .claim _ _ fresh | .seize _ _ fresh => some fresh
  | _ => none

/-- Whether a call is a purge. -/
def Call.isPurge : Call → Bool
  | .purge => true
  | _ => false

theorem Call.isPurge_iff {call : Call} : call.isPurge = true ↔ call = .purge := by
  cases call <;> simp [isPurge]

/-- The window that a call asks for, if any, is in range at its time. -/
def Timed.InRange (t : Timed) : Prop := ∀ window ∈ t.call.window?, window.InRange t.now

/-- The window that a call asks for, if any, fits at its time. -/
def Timed.Fits (t : Timed) : Prop := ∀ window ∈ t.call.window?, window.Fits t.now

instance (t : Timed) : Decidable t.Fits :=
  inferInstanceAs (Decidable (∀ window ∈ t.call.window?, window.Fits t.now))

theorem Timed.Fits.inRange {t : Timed} (h : t.Fits) : t.InRange :=
  fun window asked => (h window asked).inRange

/-- Calls in the order of their times. -/
def Chronological (calls : List Timed) : Prop := calls.Pairwise (·.now ≤ ·.now)

/-- No call comes before the first one. -/
theorem Chronological.first_le {t : Timed} {calls : List Timed} (h : Chronological (t :: calls)) :
    ∀ u ∈ t :: calls, t.now ≤ u.now := by
  intro u hu
  rcases List.mem_cons.1 hu with rfl | later
  · exact le_refl _
  · exact (List.pairwise_cons.1 h).1 u later

/-- The entries of a journal that end the lease of a token, whatever they were answered. -/
def finals (owner : Token) (journal : List Entry) : List Entry :=
  journal.filter fun e => e.call.finalizes? = some owner

/-- A lease that was granted on a key, by force or not. -/
structure Grant where
  key : String
  owner : Token
  since : Instant
  lease : Span
  forced : Bool

/-- The lease that an entry grants. -/
def Entry.grant? (e : Entry) : Option Grant :=
  match e.call, e.answer with
  | .claim key lease _, .done (.claim (.acquired owner)) => some ⟨key, owner, e.now, lease, false⟩
  | .seize key lease _, .done (.owner owner) => some ⟨key, owner, e.now, lease, true⟩
  | _, _ => none

/-- Every entry of a journal stands in a given way to the entries before it. -/
def Throughout (P : List Entry → Entry → Prop) (journal : List Entry) : Prop :=
  ∀ before e after, journal = before ++ e :: after → P before e

variable {σ α : Type}

/-- The step of a store that a call stands for. -/
def perform (st : Store σ) (s : σ) (t : Timed) : Step σ Answer :=
  match t.call with
  | .claim key lease fresh => as .claim (st.claim s ⟨t.now, fresh⟩ key lease)
  | .seize key lease fresh => as .owner (st.seize s ⟨t.now, fresh⟩ key lease)
  | .complete key owner outcome window =>
    as .finality (st.complete s t.now key owner outcome window)
  | .release key owner => as .finality (st.release s t.now key owner)
  | .read key => as .record (st.read s t.now key)
  | .purge => as .count (st.purge s t.now)
where
  /-- A step whose value is an answer. -/
  as {α : Type} (answer : α → Answer) (step : Step σ α) : Step σ Answer :=
    ⟨step.state, step.effects, step.result.map answer⟩

/-! ## Journaled stores -/

/-- A state of a store with the journal of the calls that led to it. -/
structure Journaled (σ : Type) where
  inner : σ
  journal : List Entry

namespace Journaled

/-- A state without a past. -/
def of (inner : σ) : Journaled σ := ⟨inner, []⟩

/-- A call with the answer that it gets. -/
def entry (st : Store σ) (s : Journaled σ) (t : Timed) : Entry := ⟨t, (st.perform s.inner t).result⟩

/-- Takes a call. -/
def take (st : Store σ) (s : Journaled σ) (t : Timed) : Journaled σ :=
  ⟨(st.perform s.inner t).state, s.journal ++ [s.entry st t]⟩

/-- Takes calls one after the other. -/
def run (st : Store σ) (s : Journaled σ) (calls : List Timed) : Journaled σ :=
  calls.foldl (take st) s

/-- Notes a step with its call. -/
def note (s : Journaled σ) (t : Timed) (answer : α → Answer) (step : Step σ α) :
    Step (Journaled σ) α :=
  ⟨⟨step.state, s.journal ++ [⟨t, step.result.map answer⟩]⟩, step.effects, step.result⟩

end Journaled

/-- The store with a journal. A probe is not noted: it neither reads nor changes a record. -/
def journaled (st : Store σ) : Store (Journaled σ) where
  backend := st.backend
  claim s m key lease :=
    s.note ⟨m.now, .claim key lease m.fresh⟩ .claim (st.claim s.inner m key lease)
  complete s now key owner outcome window :=
    s.note ⟨now, .complete key owner outcome window⟩ .finality
      (st.complete s.inner now key owner outcome window)
  release s now key owner :=
    s.note ⟨now, .release key owner⟩ .finality (st.release s.inner now key owner)
  seize s m key lease :=
    s.note ⟨m.now, .seize key lease m.fresh⟩ .owner (st.seize s.inner m key lease)
  read s now key := s.note ⟨now, .read key⟩ .record (st.read s.inner now key)
  purge s now := s.note ⟨now, .purge⟩ .count (st.purge s.inner now)
  ping s :=
    let step := st.ping s.inner
    ⟨{ s with inner := step.state }, step.effects, step.result⟩

/-! ## Lemmas -/

section

variable (st : Store σ) (s : Journaled σ)

@[simp]
theorem state_claim_journaled (m : Moment) (key : String) (lease : Span) :
    (st.journaled.claim s m key lease).state = s.take st ⟨m.now, .claim key lease m.fresh⟩ := rfl

@[simp]
theorem state_seize_journaled (m : Moment) (key : String) (lease : Span) :
    (st.journaled.seize s m key lease).state = s.take st ⟨m.now, .seize key lease m.fresh⟩ := rfl

@[simp]
theorem state_complete_journaled (now : Instant) (key : String) (owner : Token)
    (outcome : Outcome) (window : Span) :
    (st.journaled.complete s now key owner outcome window).state =
      s.take st ⟨now, .complete key owner outcome window⟩ := rfl

@[simp]
theorem state_release_journaled (now : Instant) (key : String) (owner : Token) :
    (st.journaled.release s now key owner).state = s.take st ⟨now, .release key owner⟩ := rfl

@[simp]
theorem state_purge_journaled (now : Instant) :
    (st.journaled.purge s now).state = s.take st ⟨now, .purge⟩ := rfl

@[simp]
theorem Journaled.journal_take (t : Timed) : (s.take st t).journal = s.journal ++ [s.entry st t] :=
  rfl

@[simp]
theorem Journaled.run_nil : s.run st [] = s := rfl

@[simp]
theorem Journaled.run_cons (t : Timed) (calls : List Timed) :
    s.run st (t :: calls) = (s.take st t).run st calls := rfl

theorem Journaled.run_append (calls more : List Timed) :
    s.run st (calls ++ more) = (s.run st calls).run st more :=
  List.foldl_append

end

namespace Throughout

variable {P : List Entry → Entry → Prop} {journal more : List Entry} {e : Entry}

theorem nil : Throughout P [] := by
  intro before e after split
  simp at split

theorem append (h : Throughout P journal) (last : P journal e) : Throughout P (journal ++ [e]) := by
  intro before e' after split
  rcases List.eq_nil_or_concat after with rfl | ⟨after', last', rfl⟩
  · obtain ⟨rfl, same⟩ := List.append_inj' split rfl
    cases same
    exact last
  · have split' : journal ++ [e] = (before ++ e' :: after') ++ [last'] := by simpa using split
    exact h before e' after' (List.append_inj' split' rfl).1

theorem left (h : Throughout P (journal ++ more)) : Throughout P journal :=
  fun before e after split => h before e (after ++ more) (by simp [split])

theorem last (h : Throughout P (journal ++ [e])) : P journal e := h journal e [] rfl

/-- Entries that stand so to every longer past can be added one after the other. -/
theorem append_all (h : Throughout P journal) (all : ∀ e ∈ more, ∀ past, P (journal ++ past) e) :
    Throughout P (journal ++ more) := by
  induction more using List.reverseRecOn with
  | nil => simpa using h
  | append_singleton more e ih =>
    rw [← List.append_assoc]
    refine (ih fun e' he' => all e' (List.mem_append_left _ he')).append ?_
    exact all e (by simp) more

end Throughout

/-- A run adds its calls to the journal. -/
theorem Journaled.exists_journal_run (st : Store σ) (s : Journaled σ) (calls : List Timed) :
    ∃ new, (s.run st calls).journal = s.journal ++ new ∧ new.map Entry.toTimed = calls := by
  induction calls generalizing s with
  | nil => exact ⟨[], by simp⟩
  | cons t rest ih =>
    obtain ⟨new, added, same⟩ := ih (s.take st t)
    refine ⟨s.entry st t :: new, ?_, ?_⟩
    · rw [run_cons, added, journal_take, List.append_assoc]
      rfl
    · rw [List.map_cons, same]
      rfl

theorem finals_append (owner : Token) (journal more : List Entry) :
    finals owner (journal ++ more) = finals owner journal ++ finals owner more :=
  List.filter_append ..

theorem mem_finals_iff {owner : Token} {journal : List Entry} {e : Entry} :
    e ∈ finals owner journal ↔ e ∈ journal ∧ e.call.finalizes? = some owner := by
  simp [finals]

theorem finals_eq_self {owner : Token} {journal : List Entry}
    (h : ∀ e ∈ journal, e.call.finalizes? = some owner) : finals owner journal = journal :=
  List.filter_eq_self.2 fun e he => by simp [h e he]

theorem finals_eq_nil {owner : Token} {journal : List Entry}
    (h : ∀ e ∈ journal, e.call.finalizes? ≠ some owner) : finals owner journal = [] :=
  List.filter_eq_nil_iff.2 fun e he => by simp [h e he]

/-- A call that ends a lease grants none. -/
theorem grant?_of_finalizes? {e : Entry} {owner : Token} (h : e.call.finalizes? = some owner) :
    e.grant? = none := by
  obtain ⟨⟨now, call⟩, answer⟩ := e
  cases call <;> first | rfl | cases h

theorem fresh?_of_finalizes? {call : Call} {owner : Token} (h : call.finalizes? = some owner) :
    call.fresh? = none := by
  cases call <;> first | rfl | cases h

/-- A lease is granted on the key that was asked for. -/
theorem key?_of_grant? {e : Entry} {a : Grant} (h : e.grant? = some a) :
    e.call.key? = some a.key := by
  rw [Entry.grant?] at h
  split at h <;> cases h <;> simp_all [Call.key?]

/-- A lease runs from its grant on. -/
theorem now_of_grant? {e : Entry} {a : Grant} (h : e.grant? = some a) : e.now = a.since := by
  rw [Entry.grant?] at h
  split at h <;> cases h <;> rfl

/-- A store grants leases to the tokens that it is brought, and to no others. -/
structure GrantsFresh (st : Store σ) : Prop where
  claim : ∀ (s : σ) (m : Moment) (key : String) (lease : Span) (owner : Token),
    (st.claim s m key lease).result = .done (.acquired owner) → owner = m.fresh
  seize : ∀ (s : σ) (m : Moment) (key : String) (lease : Span) (owner : Token),
    (st.seize s m key lease).result = .done owner → owner = m.fresh

theorem GrantsFresh.fresh?_of_grant? {st : Store σ} (law : GrantsFresh st) {s : Journaled σ}
    {t : Timed} {granted : Grant} (h : (s.entry st t).grant? = some granted) :
    t.call.fresh? = some granted.owner := by
  obtain ⟨now, call⟩ := t
  cases call with
  | claim key lease fresh =>
    simp only [Journaled.entry, perform, perform.as, Entry.grant?] at h
    cases answer : (st.claim s.inner ⟨now, fresh⟩ key lease).result with
    | done value =>
      cases value with
      | acquired owner =>
        simp only [answer, Attempt.map] at h
        cases h
        exact congrArg some (law.claim _ _ _ _ _ answer).symm
      | conflict existing => simp [answer, Attempt.map] at h
    | failed fault => simp [answer, Attempt.map] at h
    | overflow => simp [answer, Attempt.map] at h
  | seize key lease fresh =>
    simp only [Journaled.entry, perform, perform.as, Entry.grant?] at h
    cases answer : (st.seize s.inner ⟨now, fresh⟩ key lease).result with
    | done owner =>
      simp only [answer, Attempt.map] at h
      cases h
      exact congrArg some (law.seize _ _ _ _ _ answer).symm
    | failed fault => simp [answer, Attempt.map] at h
    | overflow => simp [answer, Attempt.map] at h
  | complete key owner outcome window => cases h
  | release key owner => cases h
  | read key => cases h
  | purge => cases h

end Store

end Turnstile
