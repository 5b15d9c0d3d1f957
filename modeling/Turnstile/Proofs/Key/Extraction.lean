import Mathlib.Data.List.Forall2
import Turnstile.Proofs.Guard.Course
import Turnstile.Proofs.Key.Composite

/-!
Keys that extractors find, wherever they look for them and however they are nested. Main statements:
a key is not empty and has no blanks at its ends (`Extractor.solid_of_extract`), and a list of
places gives the key of the first member that has one or the reasons of all of them
(`Extractor.extract_firstOf_eq_ok_iff`, `Extractor.extract_firstOf_eq_error_iff`). So the check
that a given key is not blank never fails for a key that was found, and a call for a request is the
call with its key (`entrances_agree`).
-/

namespace Turnstile

/-- The headers bring a key along: the first value of the name is text, that is tabs and printable
ASCII characters, and something is left of it without the blanks at its ends. -/
def Headers.Brings (h : Headers) (name key : String) : Prop :=
  ∃ value, h.find? name = some value ∧ (∀ c ∈ value.toList, c = '\t' ∨ (' ' ≤ c ∧ c ≤ '~')) ∧
    Text.trim value = key ∧ key ≠ ""

theorem Headers.asText?_eq_some_iff {value text : String} :
    asText? value = some text ↔
      value = text ∧ ∀ c ∈ value.toList, c = '\t' ∨ (' ' ≤ c ∧ c ≤ '~') := by
  have chars : value.toList.all isTextChar = true ↔
      ∀ c ∈ value.toList, c = '\t' ∨ (' ' ≤ c ∧ c ≤ '~') := by
    simp [List.all_eq_true, isTextChar]
  rw [asText?, ← chars]
  split <;> simp [*]

namespace Extractor

variable {source : KeySource} {key reason : String} {members : List Extractor}

/-! ## Single places -/

/-- An extractor finds the key that the headers bring along, and no other. -/
theorem extract_header_eq_ok_iff {name : String} :
    (header name).extract source = .ok key ↔ source.headers.Brings name key := by
  rw [extract]
  constructor
  · intro here
    unfold fromHeader at here
    split at here
    · cases here
    · rename_i value found
      split at here
      · cases here
      · rename_i text isText
        obtain ⟨rfl, chars⟩ := Headers.asText?_eq_some_iff.1 isText
        dsimp only at here
        split at here
        · cases here
        · rename_i visible
          cases here
          exact ⟨value, found, chars, rfl, by simpa using visible⟩
  · rintro ⟨value, found, chars, rfl, visible⟩
    have isText := Headers.asText?_eq_some_iff.2 ⟨rfl, chars⟩
    simp only [fromHeader, found, isText]
    exact if_neg (by simpa using visible)

theorem solid_of_header {name : String} (found : (header name).extract source = .ok key) :
    Text.Solid key.toList := by
  obtain ⟨value, -, -, rfl, visible⟩ := extract_header_eq_ok_iff.1 found
  rw [Text.trim, String.toList_ofList]
  refine .trimChars fun none => visible ?_
  simp [Text.trim, none]

theorem solid_of_fromFields {names : List String} {separator : String}
    (found : fromFields names separator source = .ok key) : Text.Solid key.toList := by
  obtain ⟨headers, body⟩ := source
  cases body with
  | none => cases found
  | some body =>
    have found : (fields names separator).extract ⟨headers, some body⟩ = .ok key := found
    obtain ⟨given, visible, rfl⟩ := extract_fields_eq_ok_iff.1 found
    rw [toList_key]
    exact .intercalate (by simpa [charsOf] using given) (solid_of_mem_charsOf visible)

/-! ## Nested places -/

mutual

/-- The key that an extractor finds is not empty and has no blanks at its ends. -/
theorem solid_of_extract {e : Extractor} (found : e.extract source = .ok key) :
    Text.Solid key.toList := by
  cases e with
  | header name => exact solid_of_header found
  | fields names separator => exact solid_of_fromFields found
  | firstOf members => exact solid_of_extractFirst found

theorem solid_of_extractFirst {members : List Extractor} {reasons : List String}
    (found : extractFirst members reasons source = .ok key) : Text.Solid key.toList := by
  cases members with
  | nil => cases found
  | cons member rest =>
    rw [extractFirst] at found
    split at found
    · rename_i key' here
      cases found
      exact solid_of_extract here
    · exact solid_of_extractFirst found

end

theorem extractFirst_eq_ok_iff {reasons : List String} :
    extractFirst members reasons source = .ok key ↔
      ∃ before e after, members = before ++ e :: after ∧
        (∀ other ∈ before, ∃ reason, other.extract source = .error reason) ∧
        e.extract source = .ok key := by
  induction members generalizing reasons with
  | nil => simp [extractFirst]
  | cons member rest ih =>
    rw [extractFirst]
    cases here : member.extract source with
    | ok found =>
      constructor
      · rintro ⟨⟩
        exact ⟨[], member, rest, rfl, by simp, here⟩
      · rintro ⟨before, e, after, split, failed, found'⟩
        cases before with
        | nil =>
          cases split
          rw [← here, found']
        | cons first before =>
          cases split
          obtain ⟨reason, missing⟩ := failed member (by simp)
          rw [here] at missing
          cases missing
    | error reason =>
      rw [ih]
      constructor
      · rintro ⟨before, e, after, rfl, failed, found⟩
        refine ⟨member :: before, e, after, rfl, ?_, found⟩
        rw [List.forall_mem_cons]
        exact ⟨⟨reason, here⟩, failed⟩
      · rintro ⟨before, e, after, split, failed, found⟩
        cases before with
        | nil =>
          cases split
          rw [here] at found
          cases found
        | cons first before =>
          cases split
          rw [List.forall_mem_cons] at failed
          exact ⟨before, e, after, rfl, failed.2, found⟩

/-- Several places give the key of the first one that has a key. -/
theorem extract_firstOf_eq_ok_iff :
    (firstOf members).extract source = .ok key ↔
      ∃ before e after, members = before ++ e :: after ∧
        (∀ other ∈ before, ∃ reason, other.extract source = .error reason) ∧
        e.extract source = .ok key := by
  rw [extract, extractFirst_eq_ok_iff]

theorem extractFirst_eq_error_iff {gathered : List String} :
    extractFirst members gathered source = .error reason ↔
      ∃ reasons, List.Forall₂ (fun e r => e.extract source = .error r) members reasons ∧
        "; ".intercalate (gathered ++ reasons) = reason := by
  induction members generalizing gathered with
  | nil => simp [extractFirst]
  | cons member rest ih =>
    rw [extractFirst]
    cases here : member.extract source with
    | ok found => simp [List.forall₂_cons_left_iff, here]
    | error first =>
      rw [ih]
      simp only [List.forall₂_cons_left_iff, here, Except.error.injEq]
      constructor
      · rintro ⟨reasons, failed, joined⟩
        exact ⟨first :: reasons, ⟨first, reasons, rfl, failed, rfl⟩, by simpa using joined⟩
      · rintro ⟨_, ⟨_, reasons, rfl, failed, rfl⟩, joined⟩
        exact ⟨reasons, failed, by simpa using joined⟩

/-- Several places give no key if none of them does, and then the reasons of all of them. -/
theorem extract_firstOf_eq_error_iff :
    (firstOf members).extract source = .error reason ↔
      ∃ reasons, List.Forall₂ (fun e r => e.extract source = .error r) members reasons ∧
        "; ".intercalate reasons = reason := by
  rw [extract, extractFirst_eq_error_iff]
  simp only [List.nil_append]

/-- Several places give a key exactly if one of them does. -/
theorem exists_extract_firstOf_iff :
    (∃ key, (firstOf members).extract source = .ok key) ↔
      ∃ e ∈ members, ∃ key, e.extract source = .ok key := by
  constructor
  · rintro ⟨key, found⟩
    obtain ⟨before, e, after, rfl, -, here⟩ := extract_firstOf_eq_ok_iff.1 found
    exact ⟨e, by simp, key, here⟩
  · rintro ⟨e, mem, key, here⟩
    cases result : (firstOf members).extract source with
    | ok key => exact ⟨key, rfl⟩
    | error reason =>
      obtain ⟨reasons, failed, -⟩ := extract_firstOf_eq_error_iff.1 result
      obtain ⟨i, at_i, rfl⟩ := List.mem_iff_getElem.1 mem
      have missing := failed.get at_i (failed.length_eq ▸ at_i)
      rw [List.get_eq_getElem, here] at missing
      cases missing

/-- A key that was found is not empty, and trimming leaves it as it is. -/
theorem trim_of_extract {e : Extractor} (found : e.extract source = .ok key) :
    key ≠ "" ∧ Text.trim key = key := by
  obtain ⟨visible, kept⟩ := Text.solid_iff.1 (solid_of_extract found)
  refine ⟨fun none => visible (by rw [none]; rfl), String.toList_inj.1 ?_⟩
  rw [Text.trim, String.toList_ofList, kept]

/-- A key that was found passes the check of given keys. -/
theorem allBlank_of_extract {e : Extractor} (found : e.extract source = .ok key) :
    Text.allBlank key = false := by
  obtain ⟨visible, kept⟩ := Text.solid_iff.1 (solid_of_extract found)
  rw [Text.allBlank, kept]
  simpa using visible

end Extractor

/-! ## The two entrances -/

section

variable {σ ε : Type} (g : Guard σ) (policy : Policy) {extractor : Extractor} {source : KeySource}
  (bypass : Bool) {key reason : String}

theorem Caller.findKey_of_extract (found : extractor.extract source = .ok key) :
    Caller.findKey ⟨policy, .request extractor source, bypass⟩ =
      Caller.findKey ⟨policy, .given key, bypass⟩ := by
  simp only [findKey, found, Extractor.allBlank_of_extract found, Bool.false_eq_true, if_false]

/-- A call for a request opens as the call with its key does. -/
theorem Guard.openFor_of_extract (found : extractor.extract source = .ok key) (s : σ) (m : Moment) :
    g.openFor ⟨policy, .request extractor source, bypass⟩ s m =
      g.openFor ⟨policy, .given key, bypass⟩ s m := by
  simp only [openFor, openRequest, openWithKey, found, Extractor.allBlank_of_extract found,
    Bool.false_eq_true, if_false]

/-- It takes the same course, whatever the store answers and whatever happens meanwhile. -/
theorem Guard.courseOf_of_extract (found : extractor.extract source = .ok key) (fresh : Token)
    (ending : Ending ε) :
    g.courseOf ⟨policy, .request extractor source, bypass⟩ fresh ending =
      g.courseOf ⟨policy, .given key, bypass⟩ fresh ending := by
  have same := Caller.findKey_of_extract policy bypass found
  have given : Caller.findKey ⟨policy, .given key, bypass⟩ = .ok key := by
    simp only [Caller.findKey, Extractor.allBlank_of_extract found, Bool.false_eq_true, if_false]
  rw [courseOf, courseOf, same, given]
  rfl

/-- A call for a request without a key ends at once. -/
theorem Guard.callFor_of_missing (missing : extractor.extract source = .error reason)
    (ending : Ending ε) (s : σ) (m : Moment) (later : Instant) :
    g.callFor ⟨policy, .request extractor source, bypass⟩ ending s m later =
      ⟨s, Caller.keyless ⟨policy, .request extractor source, bypass⟩ reason,
        some (.error (.refused (.missingKey reason)))⟩ := by
  simp only [callFor, openFor, openRequest, missing, proceed]
  rfl

end

/-- **Two entrances.** A key that an extractor finds is not empty and has no blanks at its ends.
Several places give a key exactly if one of them does, and it is the key of the first such one; else
they give the reasons of all of them, in their order. So a call for a request whose key is found is
the call with that key: it opens the same, takes the same course in between other calls, and has the
same state, effects and result on every store. A call for a request without a key leaves the state
as it is, counts itself and its missing key, and does not run its operation. -/
theorem entrances_agree :
    (∀ (e : Extractor) (source : KeySource) (key : String), e.extract source = .ok key →
      key ≠ "" ∧ Text.trim key = key) ∧
    (∀ (members : List Extractor) (source : KeySource),
      ((∃ key, (Extractor.firstOf members).extract source = .ok key) ↔
        ∃ e ∈ members, ∃ key, e.extract source = .ok key) ∧
      (∀ key, (Extractor.firstOf members).extract source = .ok key ↔
        ∃ before e after, members = before ++ e :: after ∧
          (∀ other ∈ before, ∃ reason, other.extract source = .error reason) ∧
          e.extract source = .ok key) ∧
      ∀ reason, (Extractor.firstOf members).extract source = .error reason ↔
        ∃ reasons, List.Forall₂ (fun e r => e.extract source = .error r) members reasons ∧
          "; ".intercalate reasons = reason) ∧
    ∀ {σ ε : Type} (g : Guard σ) (policy : Policy) (e : Extractor) (source : KeySource)
      (bypass : Bool) (ending : Ending ε) (s : σ) (m : Moment),
      (∀ key, e.extract source = .ok key →
        g.openRequest policy e source bypass s m = g.openWithKey policy key bypass s m ∧
        g.callRequest policy e source bypass ending s m =
          g.callWithKey policy key bypass ending s m ∧
        g.courseOf ⟨policy, .request e source, bypass⟩ m.fresh ending =
          g.courseOf ⟨policy, .given key, bypass⟩ m.fresh ending) ∧
      ∀ reason, e.extract source = .error reason →
        let t := g.callRequest policy e source bypass ending s m
        t.state = s ∧ t.value = some (.error (.refused (.missingKey reason))) ∧
          .invoke ∉ t.effects ∧
          ∀ start, Effect.counters start t.effects = (start.bump .total).bump .missingKey := by
  refine ⟨fun _ _ _ => Extractor.trim_of_extract, ?places, ?calls⟩
  case places =>
    intro members source
    exact ⟨Extractor.exists_extract_firstOf_iff, fun _ => Extractor.extract_firstOf_eq_ok_iff,
      fun _ => Extractor.extract_firstOf_eq_error_iff⟩
  case calls =>
    intro σ ε g policy e source bypass ending s m
    constructor
    · intro key found
      have opened := g.openFor_of_extract policy bypass found s m
      refine ⟨opened, ?_, g.courseOf_of_extract policy bypass found m.fresh ending⟩
      exact congrArg (g.proceed policy ending m.now) opened
    · intro reason missing t
      have ended : t = _ := g.callFor_of_missing policy bypass missing ending s m m.now
      rw [ended]
      exact ⟨rfl, rfl, by simp [Caller.keyless, Guard.logFor], fun start => rfl⟩

/-! ### A place behind two others -/

/-- A header, and behind it two places in the body that stand together. -/
def nestedPlaces : Extractor :=
  .firstOf [.header "Idempotent-Key",
    .firstOf [.fields ["userId"] "_", .fields ["code", "count"] " "]]

/-- A request with a blank header and a body without a user. -/
def userless : KeySource :=
  ⟨⟨[("idempotent-key", " \t ")]⟩,
    some (.ofMembers [("code", .string " A\n"), ("count", .number (.int (-3)))])⟩

/-- The key of a request without a user comes from the last place of all, and has a blank only in
its midst. A call for the request is the call with this key; without its body the request has no
key, and the reasons of the two inner places count as one. -/
theorem entrances_agree_nested :
    let g : Guard Memory.State := ⟨Memory.store, defaultKeyPrefix⟩
    let policy := Policy.ofScope "s"
    let bodiless : KeySource := ⟨userless.headers, none⟩
    let ending : Ending String := .failed "full"
    let m : Moment := ⟨.epoch, .serial 1⟩
    let reason := "header 'Idempotent-Key' is blank; request body is required; " ++
      "request body is required"
    nestedPlaces.extract userless = .ok "A -3" ∧ Text.trim "A -3" = "A -3" ∧
      g.callRequest policy nestedPlaces userless false ending .empty m =
        g.callWithKey policy "A -3" false ending .empty m ∧
      nestedPlaces.extract bodiless = .error reason ∧
      (g.callRequest policy nestedPlaces bodiless false ending .empty m).state = .empty := by
  intro g policy bodiless ending m reason
  have found : nestedPlaces.extract userless = .ok "A -3" := by decide +kernel
  have missing : nestedPlaces.extract bodiless = .error reason := by decide +kernel
  obtain ⟨usable, -, calls⟩ := entrances_agree
  refine ⟨found, (usable _ _ _ found).2, ?_, missing, ?_⟩
  · exact ((calls g policy nestedPlaces userless false ending .empty m).1 _ found).2.1
  · exact ((calls g policy nestedPlaces bodiless false ending .empty m).2 _ missing).1

end Turnstile
