import Turnstile.Proofs.Key.Extraction
import Turnstile.Proofs.Remote.Equivalence
import Turnstile.Proofs.Store.Kept

/-!
Vouchers that are redeemed. The rules of a voucher, the names of its members and the places where
its key is looked for are written down apart from each other. Main statements: a voucher that breaks
no rule has a key, whatever stands in the headers (`Service.exists_extract_of_violations`); so a
request for it makes its claim and is never told that its key is missing, while a request for one
that breaks a rule touches nothing (`voucher_redeemed`).
-/

namespace Turnstile

open Store

namespace Http

/-- What a refused call is answered: to come back later, or what the record in its way holds. -/
theorem Response.status_of_refuses {policy : Policy} {rawKey : String} {answer : Attempt Answer}
    {result : Except Refusal Outcome} (now : Instant)
    (refuses : Refuses policy rawKey answer result) :
    let response := (ofResult now (result.mapError .refused)).2
    response.status = 409 ∨ response.status = 503 ∨
      ∃ existing outcome, answer = .done (.claim (.conflict existing)) ∧
        existing.outcome? = some outcome ∧ response = .ofOutcome outcome := by
  cases refuses with
  | failed fault => exact .inr (.inl rfl)
  | pending => exact .inl rfl
  | rejected => exact .inl rfl
  | replayed completed rule cached => exact .inr (.inr ⟨_, _, rfl, cached, rfl⟩)
  | uncached => exact .inr (.inl rfl)

/-! ## Outcomes of the shop -/

/-- An outcome that an operation of the shop returns. -/
def Operation.Yields (outcome : Outcome) : Prop :=
  ∃ (op : Operation) (fresh : Token) (now : Instant), (op.perform fresh now).2 = .returned outcome

/-- The shop returns outcomes that went well only. -/
theorem Operation.Yields.status {outcome : Outcome} (yields : Operation.Yields outcome) :
    outcome.status = 200 ∨ outcome.status = 201 ∨ outcome.status = 204 := by
  obtain ⟨op, fresh, now, returned⟩ := yields
  cases op with
  | payment request =>
    cases returned
    exact .inl rfl
  | refund request =>
    cases returned
    exact .inr (.inl rfl)
  | order request =>
    simp only [perform] at returned
    split at returned <;> cases returned
    exact .inr (.inl rfl)
  | cancellation orderId =>
    cases returned
    exact .inr (.inr rfl)
  | subscription request =>
    cases returned
    exact .inl rfl
  | redemption request =>
    cases returned
    exact .inr (.inl rfl)

/-- An outcome of the shop is replayed with its own status. -/
theorem Operation.Yields.ne_400 {outcome : Outcome} (yields : Operation.Yields outcome) :
    (Response.ofOutcome outcome).status ≠ 400 := by
  show Response.statusOf outcome.status.toNat ≠ 400
  rcases yields.status with same | same | same <;> rw [same] <;> decide

namespace Service

variable {σ : Type} {s : Service σ} {r : Request} {v : Shop.VoucherRequest} {headers : Headers}
  {key : String} {readings : Readings} {state : σ} {m : Moment}

/-! ## Keys of vouchers -/

theorem extract_of_brings (brings : headers.Brings s.settings.guards.keyHeader key)
    (body : Option Json) : s.voucherExtractor.extract ⟨headers, body⟩ = .ok key := by
  have inHeader : s.headerExtractor.extract ⟨headers, body⟩ = .ok key :=
    Extractor.extract_header_eq_ok_iff.2 brings
  exact Extractor.extract_firstOf_eq_ok_iff.2 ⟨[], _, _, rfl, by simp, inHeader⟩

theorem extract_of_not_brings (valid : v.violations = [])
    (none : ∀ key, ¬headers.Brings s.settings.guards.keyHeader key) :
    s.voucherExtractor.extract ⟨headers, some v.toJson⟩ =
      .ok (Text.trim v.voucherCode ++ "_" ++ Text.trim v.userId) := by
  cases inHeader : s.headerExtractor.extract ⟨headers, some v.toJson⟩ with
  | error reason => exact extract_of_violations valid inHeader
  | ok key => exact absurd (Extractor.extract_header_eq_ok_iff.1 inHeader) (none key)

/-- A voucher that breaks no rule has a key, whatever stands in the headers. -/
theorem exists_extract_of_violations (valid : v.violations = []) (headers : Headers) :
    ∃ key, s.voucherExtractor.extract ⟨headers, some v.toJson⟩ = .ok key := by
  by_cases brings : ∃ key, headers.Brings s.settings.guards.keyHeader key
  · obtain ⟨key, brings⟩ := brings
    exact ⟨key, extract_of_brings brings _⟩
  · exact ⟨_, extract_of_not_brings valid (not_exists.1 brings)⟩

/-! ## Requests for vouchers -/

/-- The caller of a redemption. -/
def redeemer (s : Service σ) (r : Request) (v : Shop.VoucherRequest) : Caller :=
  ⟨s.policies.vouchers, .request s.voucherExtractor ⟨r.headers, some v.toJson⟩,
    r.headers.isTrue s.settings.guards.replayHeader⟩

/-- A request that is sent to redeem a voucher, with a body that can be read. -/
structure Redeems (r : Request) (v : Shop.VoucherRequest) : Prop where
  target : Endpoint.ofTarget? r.target = some .vouchers
  method : r.method = "POST"
  body : readBody Shop.VoucherRequest.decoder r = .ok v

theorem Redeems.accept_of_violations (redeems : Redeems r v) (broken : v.violations ≠ []) :
    s.accept r readings state m =
      ⟨state, [], .answered (.error 400 (.validation m.now v.violations)) false⟩ := by
  have refused : readValid Shop.VoucherRequest.decoder (·.violations) m.now r =
      .error (.error 400 (.validation m.now v.violations)) := by
    rw [readValid, redeems.body]
    exact if_neg (by simpa using broken)
  unfold accept
  rw [redeems.target]
  simp only [Endpoint.methods, redeems.method, acceptAt, acceptOperation, refused, Except.map]
  rfl

theorem Redeems.accept_of_valid (redeems : Redeems r v) (valid : v.violations = []) :
    s.accept r readings state m =
      s.openOperation s.policies.vouchers s.voucherExtractor r (some v.toJson) (.redemption v) 0
        state m := by
  have read : readValid Shop.VoucherRequest.decoder (·.violations) m.now r = .ok v := by
    rw [readValid, redeems.body]
    exact if_pos (by simpa using valid)
  unfold accept
  rw [redeems.target]
  simp only [Endpoint.methods, redeems.method, acceptAt, acceptOperation, read, Except.map]
  split
  · split <;> rfl
  · rename_i other
    exact absurd rfl other

/-- A request for a valid voucher makes its claim, and its answer decides what becomes of it. -/
theorem Redeems.accept_eq (redeems : Redeems r v) (valid : v.violations = [])
    (found : s.voucherExtractor.extract ⟨r.headers, some v.toJson⟩ = .ok key)
    (readings : Readings) (state : σ) (m : Moment) :
    let c := s.redeemer r v
    let step := s.guard.store.perform state (s.guard.claimAt c key m)
    let t := s.accept r readings state m
    t.state = step.state ∧ (∃ after, t.effects = c.asking ++ step.effects ++ after) ∧
      t.value =
        match s.guard.openingOf c key step.result with
        | .running lease => .held ⟨lease, c.policy.window, .redemption v, 0⟩
        | .brokenOff message => .brokenOff message
        | .ended result =>
          .answered (Response.ofResult m.now (result.mapError .refused)).2 false := by
  intro c step t
  have opened := s.guard.openFor_eq state m c
  rw [show c.findKey = .ok key from found] at opened
  have opened : s.guard.openRequest c.policy s.voucherExtractor ⟨r.headers, some v.toJson⟩ c.bypass
      state m = _ := opened
  rw [show t = _ from redeems.accept_of_valid valid, openOperation]
  simp only [show s.policies.vouchers = c.policy from rfl,
    show r.headers.isTrue s.settings.guards.replayHeader = c.bypass from rfl, opened]
  cases s.guard.openingOf c key (s.guard.store.perform state (s.guard.claimAt c key m)).result with
  | running lease => exact ⟨rfl, ⟨_, rfl⟩, rfl⟩
  | brokenOff message => exact ⟨rfl, ⟨_, rfl⟩, rfl⟩
  | ended result => exact ⟨rfl, ⟨_, List.append_assoc ..⟩, rfl⟩

section

variable (redeems : Redeems r v) (valid : v.violations = [])
  (found : s.voucherExtractor.extract ⟨r.headers, some v.toJson⟩ = .ok key)
include redeems valid found

/-- It waits if its claim gets a lease. -/
theorem Redeems.value_of_acquired {owner : Token} (readings : Readings)
    (acquired : (s.guard.store.perform state (s.guard.claimAt (s.redeemer r v) key m)).result =
      .done (.claim (.acquired owner))) :
    (s.accept r readings state m).value =
      .held ⟨s.guard.leaseFor (s.redeemer r v) key owner, s.policies.vouchers.window,
        .redemption v, 0⟩ := by
  obtain ⟨-, -, value⟩ := redeems.accept_eq valid found readings state m
  rw [value, acquired]
  rfl

/-- It is answered if a record stands in its way. -/
theorem Redeems.value_of_conflict {existing : Record} (readings : Readings)
    (refused : (s.guard.store.perform state (s.guard.claimAt (s.redeemer r v) key m)).result =
      .done (.claim (.conflict existing))) :
    (s.accept r readings state m).value =
      .answered (Response.ofResult m.now
        ((Guard.conflict s.policies.vouchers key existing).2.mapError .refused)).2 false := by
  obtain ⟨-, -, value⟩ := redeems.accept_eq valid found readings state m
  rw [value, refused]
  rfl

/-- A request for a valid voucher that is answered at once is told to come back later, or what the
record in its way holds. -/
theorem Redeems.status_of_answered {response : Response} {late : Bool}
    (answered : (s.accept r readings state m).value = .answered response late) :
    response.status = 409 ∨ response.status = 503 ∨
      ∃ existing outcome,
        (s.guard.store.perform state (s.guard.claimAt (s.redeemer r v) key m)).result =
          .done (.claim (.conflict existing)) ∧
        existing.outcome? = some outcome ∧ response = .ofOutcome outcome := by
  obtain ⟨-, -, value⟩ := redeems.accept_eq valid found readings state m
  rw [value] at answered
  split at answered
  · cases answered
  · cases answered
  · rename_i ended
    cases answered
    exact Response.status_of_refuses m.now (Guard.refuses_openingOf ended)

/-- A request for a valid voucher that waits has a lease on its key. -/
theorem Redeems.of_held {held : Held}
    (waits : (s.accept r readings state m).value = .held held) :
    held.operation = .redemption v ∧
      held.lease.key = s.guard.canonicalKey s.policies.vouchers key := by
  obtain ⟨-, -, value⟩ := redeems.accept_eq valid found readings state m
  rw [value] at waits
  split at waits
  · rename_i lease leased
    cases waits
    exact ⟨rfl, s.guard.key_of_openingOf (c := s.redeemer r v) (by rw [leased]; rfl)⟩
  · cases waits
  · cases waits

end

/-- A redemption that waits ends with its receipt, or breaks off with its window. -/
theorem status_settle {held : Held} (redemption : held.operation = .redemption v) :
    (s.settle held state m).value.status = 201 ∨ (s.settle held state m).value.status = 500 := by
  unfold settle Operation.perform Guard.finish Guard.conclude Guard.complete
  rw [redemption]
  simp only [Operation.returns, Traced.after]
  split
  · exact .inl rfl
  · exact .inl rfl
  · exact .inl rfl
  · exact .inr rfl

end Service

end Http

/-! ## Outcomes in memory -/

/-- What is cached in memory came from a call that brought it. -/
theorem Memory.cached_run {Q : Outcome → Prop} {calls : List Timed}
    (brought : ∀ t ∈ calls, ∀ outcome ∈ t.call.outcome?, Q outcome) :
    Every (fun _ r => ∀ outcome, r.outcome? = some outcome → Q outcome)
      ((Journaled.of .empty).run store calls).inner := by
  refine every_run .empty fun e taken => ⟨?_, ?_⟩
  · intro a r _ fresh outcome cached
    obtain ⟨ends, -, rfl⟩ := Option.map_eq_some_iff.1 fresh
    cases cached
  · intro key owner outcome window r completes _
    obtain ⟨new, added, same⟩ := Journaled.exists_journal_run store (.of .empty) calls
    have mem : e.toTimed ∈ calls := by
      rw [← same]
      rw [added] at taken
      exact List.mem_map_of_mem (by simpa [Journaled.of] using taken)
    have has : Q outcome := brought e.toTimed mem outcome (by rw [completes]; rfl)
    constructor
    · rintro _ ⟨⟩
      exact has
    · rintro ends _ ⟨⟩
      exact has

/-- **Vouchers have keys.** The key of a valid voucher is the one that the headers bring along, and
else its code and its user, trimmed and joined. A request for a voucher that breaks a rule is
answered with 400, and neither the store nor a counter is touched. A request for a valid one makes
its claim, whatever the store answers: it is told to come back later, or that the store fails, or
gets the outcome that the record in its way holds, or it waits with a lease on its key and ends with
201, or with 500 if the end of the window is out of range. So in a store in memory that keeps
outcomes of the shop it is never answered with 400. -/
theorem voucher_redeemed :
    (∀ {σ : Type} (s : Http.Service σ) (headers : Headers) (v : Shop.VoucherRequest),
      v.violations = [] →
      (∀ key, headers.Brings s.settings.guards.keyHeader key →
        s.voucherExtractor.extract ⟨headers, some v.toJson⟩ = .ok key) ∧
      ((∀ key, ¬headers.Brings s.settings.guards.keyHeader key) →
        s.voucherExtractor.extract ⟨headers, some v.toJson⟩ =
          .ok (Text.trim v.voucherCode ++ "_" ++ Text.trim v.userId))) ∧
    (∀ {σ : Type} (s : Http.Service σ) (r : Http.Request) (v : Shop.VoucherRequest)
      (readings : Http.Readings) (state : σ) (m : Moment), Http.Service.Redeems r v →
      let c := s.redeemer r v
      let t := s.accept r readings state m
      (v.violations ≠ [] →
        t = ⟨state, [], .answered (.error 400 (.validation m.now v.violations)) false⟩) ∧
      (v.violations = [] → ∃ key,
        s.voucherExtractor.extract ⟨r.headers, some v.toJson⟩ = .ok key ∧
        let step := s.guard.store.perform state (s.guard.claimAt c key m)
        t.state = step.state ∧ (∃ after, t.effects = c.asking ++ step.effects ++ after) ∧
        (∀ response late, t.value = .answered response late →
          response.status = 409 ∨ response.status = 503 ∨
          ∃ existing outcome, step.result = .done (.claim (.conflict existing)) ∧
            existing.outcome? = some outcome ∧ response = .ofOutcome outcome) ∧
        ∀ held, t.value = .held held →
          held.lease.key = s.guard.canonicalKey c.policy key ∧
          ∀ later m', (s.settle held later m').value.status = 201 ∨
            (s.settle held later m').value.status = 500)) ∧
    ∀ (s : Http.Service Memory.State) (calls : List Timed) (r : Http.Request)
      (v : Shop.VoucherRequest) (readings : Http.Readings) (m : Moment),
      s.guard.store = Memory.store →
      (∀ t ∈ calls, ∀ outcome ∈ t.call.outcome?, Http.Operation.Yields outcome) →
      Http.Service.Redeems r v → v.violations = [] →
      ∀ response late,
        (s.accept r readings ((Journaled.of .empty).run Memory.store calls).inner m).value =
          .answered response late → response.status ≠ 400 := by
  refine ⟨?keys, ?requests, ?memory⟩
  case keys =>
    intro σ s headers v valid
    exact ⟨fun key brings => Http.Service.extract_of_brings brings _,
      Http.Service.extract_of_not_brings valid⟩
  case requests =>
    intro σ s r v readings state m redeems c t
    refine ⟨redeems.accept_of_violations, fun valid => ?_⟩
    obtain ⟨key, found⟩ := Http.Service.exists_extract_of_violations (s := s) valid r.headers
    obtain ⟨left, effects, -⟩ := redeems.accept_eq valid found readings state m
    refine ⟨key, found, left, effects, ?_, ?_⟩
    · intro response late
      exact redeems.status_of_answered valid found
    · intro held waits
      obtain ⟨redemption, claimed⟩ := redeems.of_held valid found waits
      exact ⟨claimed, fun _ _ => Http.Service.status_settle redemption⟩
  case memory =>
    intro s calls r v readings m store brought redeems valid response late answered
    obtain ⟨key, found⟩ := Http.Service.exists_extract_of_violations (s := s) valid r.headers
    rcases redeems.status_of_answered valid found answered with
      later | failed | ⟨existing, outcome, refused, cached, rfl⟩
    · rw [later]
      decide
    · rw [failed]
      decide
    · rw [store] at refused
      obtain ⟨key', seen⟩ := Memory.exists_live?_of_conflict refused
      exact ((Memory.cached_run brought).of_live? seen outcome cached).ne_400

/-! ### A blank key in front of another one -/

/-- A request to redeem a voucher with a blank first value of the key's header. -/
def blanked (body : String) : Http.Request :=
  { redeeming body with
    headers := ⟨[("content-type", "application/json"), ("idempotent-key", " \t"),
      ("Idempotent-Key", "k")]⟩ }

theorem redeems_blanked {body : String} {v : Shop.VoucherRequest}
    (read : Http.Service.readBody Shop.VoucherRequest.decoder (blanked body) = .ok v) :
    Http.Service.Redeems (blanked body) v := by
  refine ⟨?_, rfl, read⟩
  show Http.Endpoint.ofTarget? "/api/demo/vouchers/redeem" = some .vouchers
  decide +kernel

/-- A voucher whose code is an ideographic space. -/
def codeless : String := "\x7b\"voucherCode\":\"\u3000\",\"userId\":\"C\"\x7d"

/-- A claim and the outcome that ends it, an outcome of the shop. -/
def redeemed (key : String) : List Timed :=
  [⟨.epoch, .claim key (.ofSeconds 60) (.serial 1)⟩,
   ⟨.epoch, .complete key (.serial 1) (.empty 204) (.ofSeconds 60)⟩]

theorem result_claim_empty (key : String) (fresh : Token) :
    (Memory.claim .empty ⟨.epoch, fresh⟩ key (.ofSeconds 60)).result = .done (.acquired fresh) := by
  obtain ⟨ends, deadline⟩ : ∃ ends, Instant.epoch.deadline? (.ofSeconds 60) = some ends := ⟨_, rfl⟩
  simp [Memory.claim, Memory.live?, Memory.grant, Memory.step, Record.pending?, deadline]

theorem exists_result_claim_redeemed (key : String) (lease : Span) (fresh : Token) :
    ∃ r, (Memory.claim ((Journaled.of .empty).run Memory.store (redeemed key)).inner
      ⟨.epoch, fresh⟩ key lease).result = .done (.conflict r) := by
  obtain ⟨ends, deadline⟩ : ∃ ends, Instant.epoch.deadline? (.ofSeconds 60) = some ends := ⟨_, rfl⟩
  have ongoing : ends.le .epoch = false := by
    have all : ∀ e ∈ Instant.epoch.deadline? (.ofSeconds 60), e.le .epoch = false := by
      decide +kernel
    exact all ends deadline
  simp [redeemed, Journaled.run, Journaled.take, Journaled.of, perform, perform.as, Memory.store,
    Memory.claim, Memory.complete, Memory.live?, Memory.grant, Memory.step, Record.pending?,
    Record.withOutcome, Record.isExpiredAt, Record.isOwnedBy, Record.isPending, Option.filter,
    deadline, ongoing]

/-- A redemption that does not go past its key claims it for a minute. -/
theorem perform_claimAt_blanked (state : Memory.State) (m : Moment) (v : Shop.VoucherRequest)
    (key : String) :
    (voucherService.guard.store.perform state
        (voucherService.guard.claimAt (voucherService.redeemer (blanked longCode) v) key
          m)).result =
      (Memory.claim state m (canonicalKey defaultKeyPrefix "vouchers" key)
        (.ofSeconds 60)).result.map .claim := by
  have stays :
      (blanked longCode).headers.isTrue voucherService.settings.guards.replayHeader = false := by
    decide +kernel
  simp only [Guard.claimAt, Guard.claimCall, Http.Service.redeemer, stays]
  rfl

/-- A first value that is text counts, but for the blanks at its ends; what stands behind a blank
one does not, so the voucher's own key is claimed. The voucher without a code touches nothing, and a
repeat is not answered with 400 either. -/
theorem voucher_redeemed_blanked :
    let v : Shop.VoucherRequest := ⟨"A_B", "C"⟩
    let readings : Http.Readings := ⟨.zero, [], 0⟩
    let m : Moment := ⟨.epoch, .serial 2⟩
    let key := canonicalKey defaultKeyPrefix "vouchers" "A_B_C"
    voucherService.voucherExtractor.extract
        ⟨(redeeming longCode).headers.append "IDEMPOTENT-KEY" " k\t", some v.toJson⟩ = .ok "k" ∧
      voucherService.voucherExtractor.extract ⟨(blanked longCode).headers, some v.toJson⟩ =
        .ok "A_B_C" ∧
      voucherService.accept (blanked codeless) readings .empty m =
        ⟨.empty, [], .answered (.error 400 (.validation .epoch
          [⟨"voucherCode", "voucherCode cannot be empty"⟩])) false⟩ ∧
      (∃ held, (voucherService.accept (blanked longCode) readings .empty m).value = .held held ∧
        held.lease.key = key) ∧
      ∃ response late,
        (voucherService.accept (blanked longCode) readings
          ((Journaled.of .empty).run Memory.store (redeemed key)).inner m).value =
            .answered response late ∧ response.status ≠ 400 := by
  intro v readings m key
  obtain ⟨keys, requests, memory⟩ := voucher_redeemed
  have valid : v.violations = [] := by decide +kernel
  have text : Headers.asText? " k\t" = some " k\t" := by decide +kernel
  have brings : ((redeeming longCode).headers.append "IDEMPOTENT-KEY" " k\t").Brings
      voucherService.settings.guards.keyHeader "k" :=
    ⟨" k\t", by decide +kernel, (Headers.asText?_eq_some_iff.1 text).2, by decide +kernel,
      by decide⟩
  have blank : ∀ key,
      ¬(blanked longCode).headers.Brings voucherService.settings.guards.keyHeader key := by
    rintro key ⟨value, first, -, trimmed, visible⟩
    have blank : (blanked longCode).headers.find? voucherService.settings.guards.keyHeader =
        some " \t" := by
      decide +kernel
    obtain rfl : " \t" = value := Option.some.inj (blank.symm.trans first)
    exact visible (trimmed.symm.trans (by decide +kernel))
  have redeems : Http.Service.Redeems (blanked longCode) v :=
    redeems_blanked (Shop.VoucherRequest.eq_ok_of_parts (by decide +kernel))
  have invalid : Http.Service.Redeems (blanked codeless) ⟨"\u3000", "C"⟩ :=
    redeems_blanked (Shop.VoucherRequest.eq_ok_of_parts (by decide +kernel))
  have own := (keys voucherService (blanked longCode).headers v valid).2 blank
  rw [show Text.trim v.voucherCode ++ "_" ++ Text.trim v.userId = "A_B_C" by decide +kernel] at own
  refine ⟨(keys voucherService _ v valid).1 "k" brings, own, ?_, ?_, ?_⟩
  · have broken : (⟨"\u3000", "C"⟩ : Shop.VoucherRequest).violations =
        [⟨"voucherCode", "voucherCode cannot be empty"⟩] := by decide +kernel
    rw [← broken]
    exact (requests voucherService _ _ readings .empty m invalid).1 (by rw [broken]; simp)
  · have value := redeems.value_of_acquired valid own readings
      ((perform_claimAt_blanked .empty m v "A_B_C").trans
        (congrArg (Attempt.map Answer.claim) (result_claim_empty key (.serial 2))))
    obtain ⟨key', found, -, -, -, held⟩ :=
      (requests voucherService _ v readings .empty m redeems).2 valid
    obtain rfl : "A_B_C" = key' := Except.ok.inj (own.symm.trans found)
    exact ⟨_, value, (held _ value).1⟩
  · obtain ⟨existing, conflict⟩ := exists_result_claim_redeemed key (.ofSeconds 60) m.fresh
    have value := redeems.value_of_conflict valid own readings
      ((perform_claimAt_blanked _ m v "A_B_C").trans
        (congrArg (Attempt.map Answer.claim) conflict))
    have brought : ∀ t ∈ redeemed key, ∀ outcome ∈ t.call.outcome?,
        Http.Operation.Yields outcome := by
      intro t mem outcome given
      simp only [redeemed, List.mem_cons, List.not_mem_nil, or_false] at mem
      rcases mem with rfl | rfl
      · cases given
      · cases given
        exact ⟨.cancellation "1", .serial 1, .epoch, rfl⟩
    exact ⟨_, _, value,
      memory voucherService (redeemed key) _ v readings m rfl brought redeems valid _ _ value⟩

end Turnstile
