import Mathlib.Data.Set.Function
import Turnstile.Proofs.Guard.Admission
import Turnstile.Proofs.Guard.Isolation
import Turnstile.Proofs.Memory.Sight
import Turnstile.Proofs.Remote.Serving

/-!
Canonical keys tell scopes and clients' keys apart. The parts of a key are joined by a colon that
may stand in them as well, but the last part is the hash of the client's key and has always the same
length, so the parts can be taken off from behind. Main statements: two keys under one prefix are
equal exactly if their scopes and their hashes are (`canonicalKey_inj`), and as long as no two
clients' keys have one hash, a call stands in the way of another one exactly if both have the same
scope and the same client's key (`canonical_keys_separate`).
-/

namespace Turnstile

/-! ## Digits -/

namespace Text

/-- Numbers that fit are told apart by their digits. -/
theorem hexDigits_inj {width n m : Nat} (hn : n < Nat.pow 16 width) (hm : m < Nat.pow 16 width) :
    hexDigits width n = hexDigits width m ↔ n = m := by
  constructor
  · intro same
    have read := congrArg hexNumber? same
    rw [hexNumber?_hexDigits, hexNumber?_hexDigits, Nat.mod_eq_of_lt hn,
      Nat.mod_eq_of_lt hm] at read
    exact Option.some.inj read
  · rintro rfl
    rfl

/-- The digits that are written. -/
def writtenDigits : List Char := "0123456789abcdef".toList

theorem hexDigit_mem {n : Nat} (small : n < 16) : hexDigit n ∈ writtenDigits := by
  have all : ∀ m : Fin 16, hexDigit m ∈ writtenDigits := by decide
  exact all ⟨n, small⟩

theorem mem_hexDigits {width n : Nat} {c : Char} (mem : c ∈ hexDigits width n) :
    c ∈ writtenDigits := by
  induction width generalizing n with
  | zero => cases mem
  | succ width ih =>
    rw [hexDigits, List.mem_append, List.mem_singleton] at mem
    rcases mem with mem | rfl
    · exact ih mem
    · exact hexDigit_mem (Nat.mod_lt n (by decide))

end Text

namespace Sha256

/-- Pieces of one length are told apart by their concatenation. -/
theorem flatMap_inj_of_length {α β : Type} {f : α → List β} {width : Nat}
    (length : ∀ a, (f a).length = width) (inj : ∀ a b, f a = f b → a = b) {as bs : List α}
    (lengths : as.length = bs.length) (same : as.flatMap f = bs.flatMap f) : as = bs := by
  induction as generalizing bs with
  | nil => exact (List.eq_nil_of_length_eq_zero lengths.symm).symm
  | cons a as ih =>
    cases bs with
    | nil => cases lengths
    | cons b bs =>
      rw [List.flatMap_cons, List.flatMap_cons] at same
      obtain ⟨first, rest⟩ := List.append_inj same ((length a).trans (length b).symm)
      rw [inj a b first, ih (Nat.succ.inj lengths) rest]

/-- Hash values are told apart by their digits. -/
theorem Words.digits_inj {v w : Words} : v.digits = w.digits ↔ v = w := by
  constructor
  · intro same
    have word : ∀ x y : UInt32, Text.hexDigits 8 x.toNat = Text.hexDigits 8 y.toNat → x = y :=
      fun x y h => UInt32.toNat_inj.1 ((Text.hexDigits_inj x.toNat_lt y.toNat_lt).1 h)
    have words := flatMap_inj_of_length (fun x : UInt32 => Text.length_hexDigits 8 x.toNat) word
      (by rfl) same
    obtain ⟨a, b, c, d, e, f, g, h⟩ := v
    obtain ⟨a', b', c', d', e', f', g', h'⟩ := w
    simpa using words
  · rintro rfl
    rfl

theorem mem_hexDigest {text : String} {c : Char} (mem : c ∈ hexDigest text) :
    c ∈ Text.writtenDigits := by
  obtain ⟨word, -, mem⟩ := List.mem_flatMap.1 mem
  exact Text.mem_hexDigits mem

end Sha256

/-! ## Parts of a key -/

/-- The prefix is cancelled from the front and the hash from behind. -/
theorem canonicalKey_inj {keyPrefix scope scope' rawKey rawKey' : String} :
    canonicalKey keyPrefix scope rawKey = canonicalKey keyPrefix scope' rawKey' ↔
      scope = scope' ∧ Sha256.hash rawKey.toUTF8.toList = Sha256.hash rawKey'.toUTF8.toList := by
  rw [← Sha256.Words.digits_inj, canonicalKey, canonicalKey, String.ofList_inj]
  constructor
  · intro same
    simp only [List.append_assoc, List.append_cancel_left_eq, List.cons_append,
      List.cons.injEq, true_and] at same
    obtain ⟨scopes, hashes⟩ := List.append_inj' same (by simp [Sha256.length_hexDigest])
    exact ⟨String.toList_inj.1 scopes, (List.cons.inj hashes).2⟩
  · rintro ⟨rfl, hashes⟩
    rw [Sha256.hexDigest, hashes, Sha256.hexDigest]

/-! ## Calls in the way of each other -/

section

variable {σ : Type} {g : Guard σ} {c c' : Caller} {rawKey rawKey' : String}

open Store

theorem Caller.canonicalKey?_inj (found : c.findKey = .ok rawKey)
    (found' : c'.findKey = .ok rawKey') :
    c.canonicalKey? g = c'.canonicalKey? g ↔
      g.canonicalKey c.policy rawKey = g.canonicalKey c'.policy rawKey' := by
  rw [canonicalKey?_of_ok found, canonicalKey?_of_ok found', Option.some_inj]

namespace Guard

variable (view : View g.store) {s s' : Journaled σ} {m : Moment}

/-- An opening leaves the state that its claim leaves. -/
theorem state_openFor (found : c.findKey = .ok rawKey) :
    (g.journaled.openFor c s m).state = s.take g.store (g.claimAt c rawKey m) := by
  rw [g.journaled.openFor_eq, found]
  simp only [g.perform_journaled]
  rfl

/-- What a call opens to depends on what is seen of its own key only. -/
theorem value_openFor_congr (found : c.findKey = .ok rawKey)
    (same : view.sight s.inner m.now (g.canonicalKey c.policy rawKey) =
      view.sight s'.inner m.now (g.canonicalKey c.policy rawKey)) :
    (g.journaled.openFor c s m).value = (g.journaled.openFor c s' m).value := by
  have unpurged : (g.claimAt c rawKey m).call ≠ .purge := by
    cases bypass : c.bypass <;> simp [claimAt, claimCall, bypass]
  have answers : (s.entry g.store (g.claimAt c rawKey m)).answer =
      (s'.entry g.store (g.claimAt c rawKey m)).answer := by
    refine (view.result_perform s.inner _ unpurged).trans
      (Eq.trans ?_ (view.result_perform s'.inner _ unpurged).symm)
    cases bypass : c.bypass <;>
      simp only [claimAt, claimCall, bypass, Bool.false_eq_true, if_false, if_true, Sight.next,
        Sight.grant, same]
    · split
      · rfl
      · split <;> rfl
    · split <;> rfl
  rw [g.journaled.openFor_eq, g.journaled.openFor_eq, found]
  simp only [g.perform_journaled]
  exact congrArg (g.journaled.openingOf c rawKey) answers

/-- What is seen after an opening follows from what was seen before it and from its claim. -/
theorem sight_openFor {later : Instant} (found : c.findKey = .ok rawKey) (le : m.now ≤ later) :
    view.sight (g.journaled.openFor c s m).state.inner later =
      ((view.sight s.inner m.now).next (g.claimAt c rawKey m)).1.later later := by
  have taken : view.sight (s.take g.store (g.claimAt c rawKey m)).inner m.now =
      ((view.sight s.inner m.now).next (g.claimAt c rawKey m)).1.later m.now :=
    view.sight_take s (g.claimAt c rawKey m)
  rw [state_openFor found, view.sight_of_le _ le, taken, Sight.later_later _ le]

/-- A call on one key leaves what is seen of the others. -/
theorem sight_openFor_of_ne {key : String} {later : Instant} (found : c.findKey = .ok rawKey)
    (other : g.canonicalKey c.policy rawKey ≠ key) (le : m.now ≤ later) :
    view.sight (g.journaled.openFor c s m).state.inner later key =
      view.sight s.inner later key := by
  have elsewhere : (g.claimAt c rawKey m).call.key? ≠ some key := by
    rw [claimAt, g.key?_claimCall]
    exact fun same => other (Option.some.inj same)
  rw [sight_openFor view found le, view.sight_of_le s.inner le, Sight.later, Sight.later,
    Sight.next_fst_of_ne _ _ elsewhere]

/-- The lease of a call is seen until it ends. -/
theorem sight_openFor_of_running {lease : Lease} {ends later : Instant}
    (found : c.findKey = .ok rawKey)
    (leased : (g.journaled.openFor c s m).value = .running lease)
    (deadline : m.now.deadline? c.policy.timeout = some ends) (le : m.now ≤ later)
    (live : later < ends) :
    ∃ r, view.sight (g.journaled.openFor c s m).state.inner later
        (g.canonicalKey c.policy rawKey) = some r ∧ r.state = .pending := by
  let key := g.canonicalKey c.policy rawKey
  let r : Record := ⟨key, .pending, m.fresh, none, none, m.now, ends⟩
  have pending : Record.pending? m.now key m.fresh c.policy.timeout = some r := by
    rw [Record.pending?, deadline]
    rfl
  have inRange : c.policy.timeout.InRange m.now := by
    rw [Span.InRange, deadline]
    rfl
  -- a call that does not go past its key got its lease because nothing stood in its way
  have next : ((view.sight s.inner m.now).next (g.claimAt c rawKey m)).1 key = some r := by
    cases bypass : c.bypass with
    | true => simp [claimAt, claimCall, bypass, Sight.next, Sight.grant, key, pending]
    | false =>
      cases seen : view.sight s.inner m.now key with
      | none => simp [claimAt, claimCall, bypass, Sight.next, Sight.grant, key, seen, pending]
      | some existing =>
        rw [openFor_of_seen view s m found inRange bypass seen] at leased
        cases leased
  have ongoing : r.isExpiredAt later = false := by
    simpa [Record.isExpiredAt, r] using Instant.le_eq_false_iff.2 live
  refine ⟨r, ?_, rfl⟩
  rw [sight_openFor view found le, Sight.later, next]
  simp [Option.filter, ongoing]

end Guard

end

/-- **Keys of their own.** Under one prefix, and with one prefix on the server, two keys are equal
exactly if their scopes are equal and the hashes of their clients' keys are, whatever colons stand
in the parts. Suppose that no two clients' keys in use have one hash. Then two calls have one key,
in memory as on the server, exactly if they have the same scope and the same client's key; such a
call is refused as long as the lease of the other one lasts, and any other call opens to what it
would without. Behind the scope there are always 64 lower-case hexadecimal digits. -/
theorem canonical_keys_separate :
    (∀ serverPrefix keyPrefix scope scope' rawKey rawKey' : String,
      Remote.hashKey serverPrefix (canonicalKey keyPrefix scope rawKey) =
          Remote.hashKey serverPrefix (canonicalKey keyPrefix scope' rawKey') ↔
        scope = scope' ∧
          Sha256.hash rawKey.toUTF8.toList = Sha256.hash rawKey'.toUTF8.toList) ∧
    (∀ used : Set String, Set.InjOn (fun text => Sha256.hash text.toUTF8.toList) used →
      ∀ {σ : Type} (g : Guard σ) (c c' : Caller) (rawKey rawKey' : String),
        c.findKey = .ok rawKey → c'.findKey = .ok rawKey' → rawKey ∈ used → rawKey' ∈ used →
        (c.canonicalKey? g = c'.canonicalKey? g ↔
          c.policy.scope = c'.policy.scope ∧ rawKey = rawKey') ∧
        (∀ serverPrefix, (c.canonicalKey? g).map (Remote.hashKey serverPrefix) =
            (c'.canonicalKey? g).map (Remote.hashKey serverPrefix) ↔
          c.policy.scope = c'.policy.scope ∧ rawKey = rawKey') ∧
        ∀ (_ : Store.View g.store) (s : Store.Journaled σ) (m m' : Moment), m.now ≤ m'.now →
          let opened := g.journaled.openFor c s m
          if c.policy.scope = c'.policy.scope ∧ rawKey = rawKey' then
            ∀ lease ends, opened.value = .running lease →
              m.now.deadline? c.policy.timeout = some ends → m'.now < ends →
              c'.bypass = false → c'.policy.timeout.InRange m'.now →
              (g.journaled.openFor c' opened.state m').value =
                .ended (.error (.inProgress (Text.maskKey rawKey')))
          else
            (g.journaled.openFor c' opened.state m').value =
              (g.journaled.openFor c' s m').value) ∧
    ∀ serverPrefix keyPrefix scope rawKey : String, ∃ digits : List Char,
      Remote.hashKey serverPrefix (canonicalKey keyPrefix scope rawKey) =
        serverPrefix ++ ":" ++ keyPrefix ++ ":" ++ scope ++ ":" ++ .ofList digits ∧
      digits.length = 64 ∧ ∀ d ∈ digits, d ∈ "0123456789abcdef".toList := by
  refine ⟨?equal, ?calls, ?text⟩
  case equal =>
    intro serverPrefix keyPrefix scope scope' rawKey rawKey'
    rw [Remote.hashKey_inj, canonicalKey_inj]
  case calls =>
    intro used separated σ g c c' rawKey rawKey' found found' mem mem'
    have keys : g.canonicalKey c.policy rawKey = g.canonicalKey c'.policy rawKey' ↔
        c.policy.scope = c'.policy.scope ∧ rawKey = rawKey' :=
      canonicalKey_inj.trans (and_congr_right fun _ => separated.eq_iff mem mem')
    refine ⟨(Caller.canonicalKey?_inj found found').trans keys, ?_, ?_⟩
    · intro serverPrefix
      rw [Caller.canonicalKey?_of_ok found, Caller.canonicalKey?_of_ok found', Option.map_some,
        Option.map_some, Option.some_inj, Remote.hashKey_inj, keys]
    · intro view s m m' le opened
      split
      case isTrue same =>
        intro lease ends leased deadline live stays inRange
        obtain ⟨r, seen, pending⟩ :=
          Guard.sight_openFor_of_running view found leased deadline le live
        rw [keys.2 same] at seen
        rw [Guard.openFor_of_seen view _ m' found' inRange stays seen]
        simp only [Guard.conflict, pending]
      case isFalse different =>
        refine Guard.value_openFor_congr view found' ?_
        exact Guard.sight_openFor_of_ne view found (fun same => different (keys.1 same)) le
  case text =>
    intro serverPrefix keyPrefix scope rawKey
    refine ⟨Sha256.hexDigest rawKey, ?_, Sha256.length_hexDigest rawKey,
      fun d => Sha256.mem_hexDigest⟩
    apply String.toList_inj.1
    simp [Remote.hashKey, canonicalKey]

/-! ### Scopes with colons -/

/-- The scope `"a:"` with the key `"k"` and the scope `"a"` with the key `":k"` do not meet, nor do
two keys within one scope: the first call has its lease, and the call of the other key opens as it
would on the empty store. -/
theorem canonical_keys_separate_colons :
    let g : Guard Memory.State := ⟨Memory.store, ""⟩
    let caller (scope rawKey : String) : Caller := ⟨.ofScope scope, .given rawKey, false⟩
    let m : Moment := ⟨.epoch, .serial 1⟩
    let m' : Moment := ⟨.epoch, .serial 2⟩
    let opened := g.journaled.openFor (caller "a:" "k") (.of .empty) m
    Remote.hashKey "" (canonicalKey "" "a:" "k") ≠ Remote.hashKey "" (canonicalKey "" "a" ":k") ∧
      (g.journaled.openFor (caller "a:" "k") opened.state m').value =
        .ended (.error (.inProgress "*")) ∧
      (g.journaled.openFor (caller "a:" ":k") opened.state m').value =
        (g.journaled.openFor (caller "a:" ":k") (.of .empty) m').value := by
  intro g caller m m' opened
  let used : Set String := {text | text = "k" ∨ text = ":k"}
  have differ : Sha256.hexDigest "k" ≠ Sha256.hexDigest ":k" := by decide +kernel
  have hashes : Sha256.hash "k".toUTF8.toList ≠ Sha256.hash ":k".toUTF8.toList :=
    fun same => differ (congrArg Sha256.Words.digits same)
  have separated : Set.InjOn (fun text : String => Sha256.hash text.toUTF8.toList) used := by
    rintro _ (rfl | rfl) _ (rfl | rfl) same
    · rfl
    · exact absurd same hashes
    · exact absurd same.symm hashes
    · rfl
  obtain ⟨equal, calls, -⟩ := canonical_keys_separate
  refine ⟨fun same => absurd ((equal _ _ _ _ _ _).1 same).1 (by decide), ?_, ?_⟩
  · have refused := (calls used separated g (caller "a:" "k") (caller "a:" "k") "k" "k" rfl rfl
      (.inl rfl) (.inl rfl)).2.2 Memory.view (.of .empty) m m' (le_refl _)
    rw [if_pos ⟨rfl, rfl⟩] at refused
    have inRange : (Policy.ofScope "a:").timeout.InRange Instant.epoch := by decide +kernel
    obtain ⟨leased, -⟩ := g.openFor_of_free Memory.view (.of .empty) m (c := caller "a:" "k") rfl
      inRange (.inr rfl)
    obtain ⟨ends, deadline⟩ := inRange.exists_deadline?
    have live : Instant.epoch < ends := by
      have all : ∀ e ∈ Instant.epoch.deadline? (Policy.ofScope "a:").timeout,
          Instant.epoch < e := by
        decide +kernel
      exact all ends deadline
    exact refused _ ends leased deadline live rfl inRange
  · have apart := (calls used separated g (caller "a:" "k") (caller "a:" ":k") "k" ":k" rfl rfl
      (.inl rfl) (.inr rfl)).2.2 Memory.view (.of .empty) m m' (le_refl _)
    rw [if_neg (by decide)] at apart
    exact apart

end Turnstile
