import Turnstile.Http.Response
import Turnstile.Proofs.Guard.Opening
import Turnstile.Proofs.Json.Members
import Turnstile.Proofs.Text.Masking

/-!
What a refused caller is told of a key. Main statement: keys that are masked alike cannot be told
apart by the refusals of their calls, nor by the responses to these but for their times, and all
other keys can (`keys_masked`).

Two runs are compared of which nothing is assumed but that both are refused for the same reason:
their guards, stores, policies and times may differ. So whatever tells two refusals apart is in the
masked forms of the two keys.
-/

namespace Turnstile

/-- A caller of a key is told a refusal: a guarded call with the key, on any store in any state,
ends with it. -/
inductive Told (rawKey : String) (refusal : Refusal) : Prop
  | call {σ ε : Type} (g : Guard σ) (c : Caller) (ending : Ending ε) (s : σ) (m : Moment)
      (later : Instant) (present : c.findKey = .ok rawKey)
      (told : (g.callFor c ending s m later).value = some (.error (.refused refusal)))

/-- A refusal of a repeat that names the key of its original. -/
def NamesKey (refuse : String → Refusal) : Prop :=
  refuse = .inProgress ∨ refuse = .alreadyProcessed

namespace Guard

/-- What a conflict makes of a key is a matter of its masked form. -/
theorem conflict_eq_of_alike {key key' : String} (alike : Text.Alike 4 key key') (policy : Policy)
    (existing : Record) : conflict policy key existing = conflict policy key' existing := by
  have same : Text.maskKey key = Text.maskKey key' := Text.mask_eq_mask_iff.2 alike
  unfold conflict
  rw [same]

end Guard

/-- The key that a repeat is told of is its own, masked. -/
theorem Told.eq_maskKey {refuse : String → Refusal} (names : NamesKey refuse) {rawKey key : String}
    (told : Told rawKey (refuse key)) : key = Text.maskKey rawKey := by
  obtain ⟨g, c, ending, s, m, later, present, told⟩ := told
  have ended := Guard.value_eq_of_proceed told
  rw [g.openFor_eq, present] at ended
  have refuses := Guard.refuses_openingOf ended
  generalize (g.store.perform s (g.claimAt c rawKey m)).result = answer at refuses
  rcases names with rfl | rfl
  · cases refuses
    rfl
  · cases refuses
    rfl

namespace Http.Response

/-- The response without the time in its body. -/
def undated (r : Response) : Response :=
  { r with body := match r.body with
    | .json j => .json (j.without "timestamp")
    | body => body }

theorem undated_error (status : Nat) (b : ErrorBody) : (error status b).undated =
    of status (.json (.ofMembers (b.members.filter (·.1 ≠ "timestamp")))) := by
  rw [← Json.without_ofMembers]
  rfl

/-- But for its time, the response to a repeat is made of a text of its own and the key. -/
theorem exists_undated {refuse : String → Refusal} (names : NamesKey refuse) :
    ∃ message, ∀ now key, (ofCallError now (.refused (refuse key))).2.undated =
      of 409 (.json (.ofMembers [("code", .string "DUPLICATE_REQUEST"),
        ("message", .string message), ("detail", .string key)])) := by
  rcases names with rfl | rfl
  · refine ⟨"A request with this idempotency key is being processed, please retry later", ?_⟩
    intro now key
    rw [ofCallError, undated_error]
    simp [ErrorBody.members, ErrorBody.duplicateInProgress, ErrorBody.withDetail, ErrorBody.of]
  · refine ⟨"This request has already been processed", ?_⟩
    intro now key
    rw [ofCallError, undated_error]
    simp [ErrorBody.members, ErrorBody.alreadyProcessed, ErrorBody.withDetail, ErrorBody.of]

/-- The responses to two repeats differ in their times only if the keys are the same. -/
theorem undated_eq_undated_iff {refuse : String → Refusal} (names : NamesKey refuse)
    (now now' : Instant) (key key' : String) :
    (ofCallError now (.refused (refuse key))).2.undated =
      (ofCallError now' (.refused (refuse key'))).2.undated ↔ key = key' := by
  obtain ⟨message, response⟩ := exists_undated names
  rw [response, response]
  constructor
  · intro same
    have bodies := Body.json.inj (Response.mk.inj same).2.2.1
    have detail : ∀ key : String, (Json.ofMembers [("code", .string "DUPLICATE_REQUEST"),
        ("message", .string message), ("detail", .string key)]).get? "detail" =
          some (.string key) :=
      fun key => Json.get?_ofMembers (by simp) (m := ("detail", .string key)) (by simp)
    have found := (detail key).symm.trans (bodies ▸ detail key')
    exact Json.string.inj (Option.some.inj found)
  · rintro rfl
    rfl

theorem status_ofCallError {refuse : String → Refusal} (names : NamesKey refuse) (now : Instant)
    (key : String) : (ofCallError now (.refused (refuse key))).2.status = 409 := by
  rcases names with rfl | rfl <;> rfl

end Http.Response

/-- **Keys stay masked.** A masked text is as long as the text; if there is something between the
characters shown at both ends, then these are those of the text and all others are asterisks, and
else all are. So a conflict makes the same of keys that are masked alike, with the same reports. And
whoever is refused with a key, on whatever store, is told the masked form of the own key. That is
what the caller of another key is told who is refused so, and the responses to both are the same but
for their times, exactly if the keys are of one length and have the same four characters at either
end, or are of one length of at most eight. -/
theorem keys_masked :
    (∀ (shown : Nat) (s : String), shown * 2 < Nat.pow 2 64 →
      ∃ masked, Text.mask? shown s = some masked ∧
        masked.toList.length = s.toList.length ∧
        ∀ i < s.toList.length, masked.toList[i]? =
          if shown * 2 < s.toList.length ∧ (i < shown ∨ s.toList.length - shown ≤ i) then
            s.toList[i]?
          else some '*') ∧
    (∀ key key' : String, Text.Alike 4 key key' → ∀ (policy : Policy) (existing : Record),
      Guard.conflict policy key existing = Guard.conflict policy key' existing) ∧
    ∀ refuse : String → Refusal, NamesKey refuse → ∀ rawKey rawKey' key key' : String,
      Told rawKey (refuse key) → Told rawKey' (refuse key') →
      key = Text.maskKey rawKey ∧ (key = key' ↔ Text.Alike 4 rawKey rawKey') ∧
      ∀ now now' : Instant,
        let response := (Http.Response.ofCallError now (.refused (refuse key))).2
        let response' := (Http.Response.ofCallError now' (.refused (refuse key'))).2
        response.status = 409 ∧ response'.status = 409 ∧
          (response.undated = response'.undated ↔ Text.Alike 4 rawKey rawKey') := by
  refine ⟨?masked, fun _ _ => Guard.conflict_eq_of_alike, ?told⟩
  case masked =>
    intro shown s counted
    refine ⟨Text.mask shown s, if_pos counted, ?_, fun i inside => ?_⟩
    · rw [Text.toList_mask, Text.length_maskChars]
    · rw [Text.toList_mask]
      exact Text.getElem?_maskChars inside
  case told =>
    intro refuse names rawKey rawKey' key key' told told'
    have own := told.eq_maskKey names
    have same : key = key' ↔ Text.Alike 4 rawKey rawKey' := by
      rw [own, told'.eq_maskKey names]
      exact Text.mask_eq_mask_iff
    refine ⟨own, same, fun now now' => ⟨?_, ?_, ?_⟩⟩
    · exact Http.Response.status_ofCallError names now key
    · exact Http.Response.status_ofCallError names now' key'
    · exact (Http.Response.undated_eq_undated_iff names now now' key key').trans same

/-! ### A key that is always taken -/

/-- The record of a call that goes on. -/
def ongoing : Record := ⟨"k", .pending, .serial 0, none, none, .epoch, .epoch⟩

/-- A store that has the record of an earlier call for every key. -/
def occupied : Store Unit where
  backend := "memory"
  claim s _ _ _ := ⟨s, [], .done (.conflict ongoing)⟩
  complete s _ _ _ _ _ := ⟨s, [], .done .stale⟩
  release s _ _ _ := ⟨s, [], .done .stale⟩
  seize s _ _ _ := ⟨s, [], .failed (.unavailable "connection refused")⟩
  read s _ _ := ⟨s, [], .done (some ongoing)⟩
  purge s _ := ⟨s, [], .done 0⟩
  ping s := ⟨s, [], .failed (.unavailable "connection refused")⟩

theorem told_occupied (scope : String) {rawKey : String} (visible : Text.allBlank rawKey = false) :
    Told rawKey (.inProgress (Text.maskKey rawKey)) := by
  let caller : Caller := ⟨Policy.ofScope scope, .given rawKey, false⟩
  have present : caller.findKey = .ok rawKey := by
    simp [caller, Caller.findKey, visible]
  refine .call ⟨occupied, defaultKeyPrefix⟩ caller (.returned ⟨200, .null⟩ : Ending Unit) ()
    ⟨.epoch, .serial 1⟩ .epoch present ?_
  rw [Guard.callFor, Guard.openFor_eq, present]
  rfl

/-- Two characters of several bytes are all that is hidden of a key of ten characters. -/
theorem keys_masked_multibyte :
    4 * 2 < Nat.pow 2 64 ∧ NamesKey .inProgress ∧
      Text.mask? 4 "clé-à€wxyz" = some "clé-**wxyz" ∧
      "clé-**wxyz".toList.length = "clé-à€wxyz".toList.length ∧
      Told "clé-à€wxyz" (.inProgress "clé-**wxyz") ∧
      Told "clé-😀*wxyz" (.inProgress "clé-**wxyz") ∧
      Told "clé-à€wxyy" (.inProgress "clé-**wxyy") ∧
      Text.Alike 4 "clé-à€wxyz" "clé-😀*wxyz" ∧ ¬Text.Alike 4 "clé-à€wxyz" "clé-à€wxyy" ∧
      Guard.conflict (Policy.ofScope "s") "clé-à€wxyz" ongoing =
        Guard.conflict (Policy.ofScope "s") "clé-😀*wxyz" ongoing := by
  obtain ⟨masked, conflicts, told⟩ := keys_masked
  have counted : 4 * 2 < Nat.pow 2 64 := by decide
  have names : NamesKey .inProgress := .inl rfl
  have shown : Text.mask? 4 "clé-à€wxyz" = some "clé-**wxyz" := by decide +kernel
  obtain ⟨text, made, length, -⟩ := masked 4 "clé-à€wxyz" counted
  obtain rfl : text = "clé-**wxyz" := Option.some.inj (made.symm.trans shown)
  have first : Told "clé-à€wxyz" (.inProgress "clé-**wxyz") := by
    have mask : Text.maskKey "clé-à€wxyz" = "clé-**wxyz" := by decide +kernel
    rw [← mask]
    exact told_occupied "payments" (by decide +kernel)
  have second : Told "clé-😀*wxyz" (.inProgress "clé-**wxyz") := by
    have mask : Text.maskKey "clé-😀*wxyz" = "clé-**wxyz" := by decide +kernel
    rw [← mask]
    exact told_occupied "orders" (by decide +kernel)
  have third : Told "clé-à€wxyy" (.inProgress "clé-**wxyy") := by
    have mask : Text.maskKey "clé-à€wxyy" = "clé-**wxyy" := by decide +kernel
    rw [← mask]
    exact told_occupied "orders" (by decide +kernel)
  obtain ⟨-, same, -⟩ := told _ names _ _ _ _ first second
  obtain ⟨-, other, -⟩ := told _ names _ _ _ _ first third
  have alike := same.1 rfl
  have different : "clé-**wxyz" ≠ "clé-**wxyy" := by decide
  refine ⟨counted, names, shown, length, first, second, third, alike, ?_, conflicts _ _ alike _ _⟩
  intro ends
  exact different (other.2 ends)

end Turnstile
