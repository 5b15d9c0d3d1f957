import Turnstile.Http.Service
import Turnstile.Proofs.Json.Double
import Turnstile.Proofs.Json.Members
import Turnstile.Proofs.Text.Joined
import Turnstile.Store.Memory

/-!
Keys that are put together from the body of a request. The parts are joined as they are, so two
bodies with different texts may have one key. Main statement: bodies with one key give the same text
for every field, unless a text in front of a separator can be severed, and a body with such a text
does share its key with another one; the keys of two vouchers are equal exactly if the vouchers are,
or if the end of one code moves to the front of the other user (`composite_key_determines`).
-/

namespace Turnstile

namespace Json

/-! ## Numbers -/

/-- No blank stands in the text of a numeral. -/
theorem Numeral.Proper.not_isBlank {n : Numeral} (proper : n.Proper) :
    ∀ c ∈ n.chars, Text.isBlank c = false := by
  obtain ⟨negative, whole, fraction, exponent⟩ := n
  obtain ⟨-, -, wholeDigits, fractionDigits, exponentDigits⟩ := proper
  have behindPoint : ∀ c ∈ fractionChars fraction, Text.isBlank c = false := by
    cases fraction with
    | nil => simp [fractionChars]
    | cons d ds =>
      show ∀ c ∈ '.' :: d :: ds, Text.isBlank c = false
      rw [List.forall_mem_cons]
      exact ⟨rfl, fun c hc => Text.isBlank_of_isDigit (fractionDigits c hc)⟩
  have behindMark : ∀ c ∈ exponentChars exponent, Text.isBlank c = false := by
    cases exponent with
    | none => simp [exponentChars]
    | some e =>
      obtain ⟨below, digits⟩ := e
      rw [exponentChars, List.forall_mem_cons, List.forall_mem_cons]
      refine ⟨rfl, by cases below <;> rfl, fun c hc => Text.isBlank_of_isDigit ?_⟩
      exact (exponentDigits _ rfl).2 c hc
  intro c hc
  rw [chars, List.mem_append, List.mem_append] at hc
  rcases hc with hc | hc | hc
  · exact Text.isBlank_of_isDigit (wholeDigits c hc)
  · exact behindPoint c hc
  · exact behindMark c hc

/-- No blank stands in the text of a number. -/
theorem Number.not_isBlank (n : Number) : ∀ c ∈ n.chars, Text.isBlank c = false := by
  cases n with
  | int i =>
    have digits : ∀ c ∈ Text.decimalDigits i.natAbs, Text.isBlank c = false :=
      fun c hc => Text.isBlank_of_isDigit (Text.isDigit_of_mem_decimalDigits hc)
    rcases Int.lt_or_le i 0 with below | above
    · rw [chars, Text.toList_writeInt_of_neg below, List.forall_mem_cons]
      exact ⟨rfl, digits⟩
    · rwa [chars, Text.toList_writeInt_of_nonneg above]
  | double d =>
    rw [chars, d.toList_text, List.forall_mem_append]
    refine ⟨?_, (Double.proper_numeral d).not_isBlank⟩
    unfold Double.signText
    split <;> simp [show Text.isBlank '-' = false from rfl]

end Json

namespace Extractor

variable {names : List String} {separator : String} {body body' : Json} {key : String}

/-! ## Parts -/

/-- The text that a body gives for a field. -/
def textOf (body : Json) (name : String) : String := partOf (body.get? name)

/-- A part of a key has no blanks at its ends. -/
theorem solid_partOf {value : Option Json} (visible : partOf value ≠ "") :
    Text.Solid (partOf value).toList := by
  rcases value with _ | value
  · exact absurd rfl visible
  cases value with
  | string s =>
    simp only [partOf, Text.trim, String.toList_ofList] at visible ⊢
    exact .trimChars fun none => visible (by rw [none])
  | number n =>
    simp only [partOf, Json.Number.text, String.toList_ofList] at visible ⊢
    exact .of_all (fun none => visible (by rw [none])) (by simpa using n.not_isBlank)
  | bool b => cases b <;> exact .of_all (by simp [partOf]) (by decide +kernel)
  | null => exact absurd rfl visible
  | array items => exact absurd rfl visible
  | object members => exact absurd rfl visible

theorem parts_eq_ok_iff {texts : List String} :
    parts body names = .ok texts ↔
      (∀ name ∈ names, textOf body name ≠ "") ∧ names.map (textOf body) = texts := by
  induction names generalizing texts with
  | nil => simp [parts]
  | cons name names ih =>
    rw [parts, ← textOf, List.forall_mem_cons, List.map_cons]
    by_cases missing : textOf body name = ""
    · simp [missing]
    · rw [if_neg (by simpa using missing), map_eq_ok_iff]
      constructor
      · rintro ⟨others, found, rfl⟩
        obtain ⟨all, rfl⟩ := ih.1 found
        exact ⟨⟨missing, all⟩, rfl⟩
      · rintro ⟨⟨-, all⟩, rfl⟩
        exact ⟨_, ih.2 ⟨all, rfl⟩, rfl⟩

/-- A key is found in a body exactly if there are fields and the body has a text for each of them,
and then it is made of these texts. -/
theorem extract_fields_eq_ok_iff {headers : Headers} :
    (fields names separator).extract ⟨headers, some body⟩ = .ok key ↔
      names ≠ [] ∧ (∀ name ∈ names, textOf body name ≠ "") ∧
        separator.intercalate (names.map (textOf body)) = key := by
  simp only [extract, fromFields]
  by_cases none : names = []
  · simp [none]
  · rw [if_neg (by simpa using none), map_eq_ok_iff]
    constructor
    · rintro ⟨texts, found, rfl⟩
      obtain ⟨all, rfl⟩ := parts_eq_ok_iff.1 found
      exact ⟨none, all, rfl⟩
    · rintro ⟨-, all, rfl⟩
      exact ⟨_, parts_eq_ok_iff.2 ⟨all, rfl⟩, rfl⟩

/-! ## Bodies with one key -/

/-- A body blurs its key: the text of a field other than the last can be severed in front of the
separator. -/
def Blurs (names : List String) (separator : String) (body : Json) : Prop :=
  ∃ name ∈ names.dropLast, Text.Severable separator.toList (textOf body name).toList

/-- The texts of the fields, as lists of characters. -/
def charsOf (names : List String) (body : Json) : List (List Char) :=
  names.map fun name => (textOf body name).toList

theorem toList_key : (separator.intercalate (names.map (textOf body))).toList =
    separator.toList.intercalate (charsOf names body) := by
  rw [String.toList_intercalate, List.map_map]
  rfl

theorem solid_of_mem_charsOf (visible : ∀ name ∈ names, textOf body name ≠ "") :
    ∀ cs ∈ charsOf names body, Text.Solid cs := by
  intro cs mem
  obtain ⟨name, hname, rfl⟩ := List.mem_map.1 mem
  exact solid_partOf (visible name hname)

theorem blurs_iff : Blurs names separator body ↔
    ∃ cs ∈ (charsOf names body).dropLast, Text.Severable separator.toList cs := by
  simp [Blurs, charsOf, ← List.map_dropLast]

/-- Bodies with one key that do not blur it give the same text for every field. -/
theorem textOf_eq_of_extract_eq {headers headers' : Headers}
    (found : (fields names separator).extract ⟨headers, some body⟩ = .ok key)
    (found' : (fields names separator).extract ⟨headers', some body'⟩ = .ok key)
    (sharp : ¬Blurs names separator body) (sharp' : ¬Blurs names separator body') :
    ∀ name ∈ names, textOf body name = textOf body' name := by
  obtain ⟨-, visible, rfl⟩ := extract_fields_eq_ok_iff.1 found
  obtain ⟨-, visible', same⟩ := extract_fields_eq_ok_iff.1 found'
  have joined := congrArg String.toList same
  rw [toList_key, toList_key] at joined
  have texts : charsOf names body' = charsOf names body :=
    Text.eq_of_intercalate_eq (by simp [charsOf]) (solid_of_mem_charsOf visible')
      (solid_of_mem_charsOf visible) (fun cs mem cut => sharp' (blurs_iff.2 ⟨cs, mem, cut⟩))
      (fun cs mem cut => sharp (blurs_iff.2 ⟨cs, mem, cut⟩)) joined
  intro name mem
  exact (String.toList_inj.1 (List.map_inj_left.1 texts name mem)).symm

/-- The object that gives texts for fields. -/
def bodyOf (names : List String) (texts : List (List Char)) : List (String × Json) :=
  names.zip (texts.map fun cs => .string (.ofList cs))

theorem charsOf_bodyOf (nodup : names.Nodup) {texts : List (List Char)}
    (length : texts.length = names.length) (solid : ∀ cs ∈ texts, Text.Solid cs) :
    charsOf names (.ofMembers (bodyOf names texts)) = texts := by
  have keys : (bodyOf names texts).map Prod.fst = names := List.map_fst_zip (by simp [length])
  refine List.ext_getElem (by simp [charsOf, length]) fun i _ here => ?_
  have named : i < names.length := length ▸ here
  have mem : (names[i], Json.string (.ofList texts[i])) ∈ bodyOf names texts := by
    rw [bodyOf, List.mem_iff_getElem]
    exact ⟨i, by simpa [length] using named, by simp⟩
  have found := Json.get?_ofMembers (keys.symm ▸ nodup) mem
  have trimmed := (solid _ (List.getElem_mem here)).trimChars_eq
  simp only [charsOf, List.getElem_map, textOf, found, partOf, Text.trim, String.toList_ofList,
    trimmed]

/-- A body that blurs its key shares it with a body that gives other texts. -/
theorem exists_of_blurs {headers : Headers} (nodup : names.Nodup)
    (found : (fields names separator).extract ⟨headers, some body⟩ = .ok key)
    (blurs : Blurs names separator body) :
    ∃ members, (fields names separator).extract ⟨headers, some (.ofMembers members)⟩ = .ok key ∧
      ∃ name ∈ names, textOf (.ofMembers members) name ≠ textOf body name := by
  obtain ⟨given, visible, rfl⟩ := extract_fields_eq_ok_iff.1 found
  obtain ⟨cs, mem, severable⟩ := blurs_iff.1 blurs
  obtain ⟨texts, length, solid, joined, other⟩ :=
    Text.exists_intercalate_eq (solid_of_mem_charsOf visible) mem severable
  have charsEq := charsOf_bodyOf nodup (by simpa [charsOf] using length) solid
  refine ⟨bodyOf names texts, extract_fields_eq_ok_iff.2 ⟨given, ?_, ?_⟩, ?_⟩
  · intro name hname empty
    have part : (textOf (.ofMembers (bodyOf names texts)) name).toList ∈
        charsOf names (.ofMembers (bodyOf names texts)) := List.mem_map_of_mem hname
    rw [charsEq] at part
    exact (solid _ part).ne_nil (by rw [empty]; rfl)
  · rw [← String.toList_inj, toList_key, toList_key, charsEq, joined]
  · by_contra same
    simp only [not_exists, not_and, not_not] at same
    exact other (charsEq.symm.trans (List.map_congr_left fun name hname => by
      rw [same name hname]))

end Extractor

/-! ## Vouchers -/

namespace Shop.VoucherRequest

variable {v v' : VoucherRequest}

theorem textOf_toJson (v : VoucherRequest) :
    Extractor.textOf v.toJson "voucherCode" = Text.trim v.voucherCode ∧
      Extractor.textOf v.toJson "userId" = Text.trim v.userId := by
  have nodup : ([("voucherCode", Json.string v.voucherCode), ("userId", .string v.userId)].map
      Prod.fst).Nodup := by simp
  have code := Json.get?_ofMembers nodup (List.mem_cons_self)
  have user := Json.get?_ofMembers nodup (List.mem_cons_of_mem _ List.mem_cons_self)
  rw [Extractor.textOf, Extractor.textOf, toJson, code, user]
  exact ⟨rfl, rfl⟩

/-- A voucher whose code has no underscore does not blur its key. -/
theorem not_blurs_of_notMem (v : VoucherRequest)
    (absent : '_' ∉ (Text.trim v.voucherCode).toList) :
    ¬Extractor.Blurs ["voucherCode", "userId"] "_" v.toJson := by
  rintro ⟨name, mem, severable⟩
  obtain rfl : name = "voucherCode" := by simpa using mem
  rw [v.textOf_toJson.1] at severable
  exact Text.not_severable_of_notMem absent severable

/-- A request that breaks no rule has a code and a user. -/
theorem visible_of_violations (valid : v.violations = []) :
    Text.trim v.voucherCode ≠ "" ∧ Text.trim v.userId ≠ "" := by
  have visible : ∀ s field message, violated (Text.allBlank s) field message = [] →
      Text.trim s ≠ "" := by
    intro s field message kept blank
    have nothing : Text.trimChars s.toList = [] := by
      simpa [Text.trim] using congrArg String.toList blank
    simp [violated, Text.allBlank, nothing] at kept
  obtain ⟨code, user⟩ := List.append_eq_nil_iff.1 valid
  exact ⟨visible _ _ _ code, visible _ _ _ user⟩

/-- The key of a voucher is its code and its user, joined as they are. -/
theorem extract_toJson {key : String} (code : Text.trim v.voucherCode ≠ "")
    (user : Text.trim v.userId ≠ "")
    (joined : Text.trim v.voucherCode ++ "_" ++ Text.trim v.userId = key) (headers : Headers) :
    (Extractor.fields ["voucherCode", "userId"] "_").extract ⟨headers, some v.toJson⟩ =
      .ok key := by
  obtain ⟨codeText, userText⟩ := v.textOf_toJson
  refine Extractor.extract_fields_eq_ok_iff.2 ⟨by simp, ?_, ?_⟩
  · simpa [codeText, userText] using ⟨code, user⟩
  · simpa [codeText, userText] using joined

/-- The end of the code of a voucher moves to the front of the user of another one. -/
def Spills (v v' : VoucherRequest) : Prop :=
  ∃ w, Text.trim v.voucherCode = Text.trim v'.voucherCode ++ "_" ++ w ∧
    Text.trim v'.userId = w ++ "_" ++ Text.trim v.userId

theorem toList_joined (a b : String) : (a ++ "_" ++ b).toList = a.toList ++ '_' :: b.toList := by
  simp

theorem spills_iff : v.Spills v' ↔
    ∃ w, (Text.trim v.voucherCode).toList = (Text.trim v'.voucherCode).toList ++ '_' :: w ∧
      (Text.trim v'.userId).toList = w ++ '_' :: (Text.trim v.userId).toList := by
  constructor
  · rintro ⟨w, code, user⟩
    exact ⟨w.toList, by rw [code, toList_joined], by rw [user, toList_joined]⟩
  · rintro ⟨w, code, user⟩
    refine ⟨.ofList w, String.toList_inj.1 ?_, String.toList_inj.1 ?_⟩
    · rw [code, toList_joined, String.toList_ofList]
    · rw [user, toList_joined, String.toList_ofList]

/-- The codes and users of two vouchers give one joined text exactly if they are the same, or if the
end of one code moves to the front of the other user. -/
theorem joined_eq_iff :
    Text.trim v.voucherCode ++ "_" ++ Text.trim v.userId =
        Text.trim v'.voucherCode ++ "_" ++ Text.trim v'.userId ↔
      (Text.trim v.voucherCode = Text.trim v'.voucherCode ∧
        Text.trim v.userId = Text.trim v'.userId) ∨ v.Spills v' ∨ v'.Spills v := by
  rw [← String.toList_inj, toList_joined, toList_joined, Text.append_cons_eq_append_cons_iff,
    spills_iff, spills_iff, String.toList_inj, String.toList_inj]

end Shop.VoucherRequest

namespace Http.Service

variable {σ : Type} {s : Service σ} {now : Instant} {r : Request}

/-- A request brings no key along: the configured header gives none. -/
def Keyless (s : Service σ) (r : Request) : Prop :=
  ∀ body key, s.headerExtractor.extract ⟨r.headers, body⟩ ≠ .ok key

theorem violations_of_readValid {α : Type} {decode : Json.Decoder α}
    {violations : α → List Shop.Violation} {a : α}
    (valid : readValid decode violations now r = .ok a) : violations a = [] := by
  rw [readValid] at valid
  cases read : readBody decode r with
  | error response =>
    rw [read] at valid
    cases valid
  | ok b =>
    rw [read] at valid
    simp only [Except.bind] at valid
    split at valid
    · rename_i kept
      cases valid
      exact List.isEmpty_iff.1 kept
    · cases valid

/-- A valid voucher without a key in the header has the key of its code and its user. -/
theorem extract_of_violations {v : Shop.VoucherRequest} {headers : Headers} {reason : String}
    (valid : v.violations = [])
    (missing : s.headerExtractor.extract ⟨headers, some v.toJson⟩ = .error reason) :
    s.voucherExtractor.extract ⟨headers, some v.toJson⟩ =
      .ok (Text.trim v.voucherCode ++ "_" ++ Text.trim v.userId) := by
  obtain ⟨code, user⟩ := Shop.VoucherRequest.visible_of_violations valid
  have inBody := Shop.VoucherRequest.extract_toJson code user rfl headers
  simp only [voucherExtractor, Extractor.extract, Extractor.extractFirst,
    Extractor.defaultSeparator, missing] at inBody ⊢
  rw [inBody]

/-- A request for a voucher that brings no key along has the key of its code and its user. -/
theorem extract_voucher {v : Shop.VoucherRequest} {key : String}
    (valid : readValid Shop.VoucherRequest.decoder (·.violations) now r = .ok v)
    (keyless : s.Keyless r)
    (joined : Text.trim v.voucherCode ++ "_" ++ Text.trim v.userId = key) :
    s.voucherExtractor.extract ⟨r.headers, some v.toJson⟩ = .ok key := by
  subst joined
  cases inHeader : s.headerExtractor.extract ⟨r.headers, some v.toJson⟩ with
  | error reason => exact extract_of_violations (violations_of_readValid valid) inHeader
  | ok key => exact absurd inHeader (keyless _ _)

end Http.Service

/-- **Keys of bodies.** Two bodies with one key give the same text for every field, as long as
neither has, in a field other than the last, a text that can be severed in front of the separator.
If the fields are different, a body that has one shares its key with a body that gives other texts.
Two requests for vouchers that are valid and bring no key along have one key exactly if their codes
and users are the same, or if the end of one code moves to the front of the other user. -/
theorem composite_key_determines :
    (∀ (names : List String) (separator key : String) (headers headers' : Headers)
      (body body' : Json),
      (Extractor.fields names separator).extract ⟨headers, some body⟩ = .ok key →
      (Extractor.fields names separator).extract ⟨headers', some body'⟩ = .ok key →
      ¬Extractor.Blurs names separator body → ¬Extractor.Blurs names separator body' →
      ∀ name ∈ names, Extractor.textOf body name = Extractor.textOf body' name) ∧
    (∀ (names : List String) (separator key : String) (headers : Headers) (body : Json),
      names.Nodup →
      (Extractor.fields names separator).extract ⟨headers, some body⟩ = .ok key →
      Extractor.Blurs names separator body →
      ∃ members,
        (Extractor.fields names separator).extract ⟨headers, some (.ofMembers members)⟩ = .ok key ∧
        ∃ name ∈ names,
          Extractor.textOf (.ofMembers members) name ≠ Extractor.textOf body name) ∧
    ∀ (σ : Type) (s : Http.Service σ) (now now' : Instant) (r r' : Http.Request)
      (v v' : Shop.VoucherRequest),
      Http.Service.readValid Shop.VoucherRequest.decoder (·.violations) now r = .ok v →
      Http.Service.readValid Shop.VoucherRequest.decoder (·.violations) now' r' = .ok v' →
      s.Keyless r → s.Keyless r' →
      ∃ key key', s.voucherExtractor.extract ⟨r.headers, some v.toJson⟩ = .ok key ∧
        s.voucherExtractor.extract ⟨r'.headers, some v'.toJson⟩ = .ok key' ∧
        (key = key' ↔
          (Text.trim v.voucherCode = Text.trim v'.voucherCode ∧
            Text.trim v.userId = Text.trim v'.userId) ∨ v.Spills v' ∨ v'.Spills v) := by
  refine ⟨?_, ?_, ?_⟩
  · intro names separator key headers headers' body body' found found' sharp sharp'
    exact Extractor.textOf_eq_of_extract_eq found found' sharp sharp'
  · intro names separator key headers body nodup found blurs
    exact Extractor.exists_of_blurs nodup found blurs
  · intro σ s now now' r r' v v' valid valid' keyless keyless'
    exact ⟨_, _, Http.Service.extract_voucher valid keyless rfl,
      Http.Service.extract_voucher valid' keyless' rfl, Shop.VoucherRequest.joined_eq_iff⟩

/-! ### Two vouchers -/

/-- A service that redeems vouchers, over the store in memory and with the standard settings. -/
def voucherService : Http.Service Memory.State :=
  ⟨⟨Memory.store, defaultKeyPrefix⟩, .standard, false⟩

/-- A request to redeem a voucher that has no headers but the kind of its content. -/
def redeeming (body : String) : Http.Request :=
  ⟨"POST", "/api/demo/vouchers/redeem", ⟨[("content-type", "application/json")]⟩, body⟩

theorem keyless_redeeming (body : String) : voucherService.Keyless (redeeming body) := by
  intro source key found
  have missing :
      (redeeming body).headers.find? voucherService.settings.guards.keyHeader = none := by
    show Headers.find? ⟨[("content-type", "application/json")]⟩ "Idempotent-Key" = none
    decide +kernel
  rw [Http.Service.headerExtractor, Extractor.extract, Extractor.fromHeader, missing] at found
  cases found

/-- The voucher "A_B" of the user "C". -/
def longCode : String := "\x7b\"voucherCode\":\"A_B\",\"userId\":\"C\"\x7d"

/-- The voucher "A" of the user "B_C". -/
def longUser : String := "\x7b\"voucherCode\":\"A\",\"userId\":\"B_C\"\x7d"

/-- A reading that shows a code and a user has read their voucher. -/
theorem Shop.VoucherRequest.eq_ok_of_parts {ε : Type} {reading : Except ε VoucherRequest}
    {code user : String}
    (parts : (reading.toOption.map fun v => (v.voucherCode, v.userId)) = some (code, user)) :
    reading = .ok ⟨code, user⟩ := by
  cases reading with
  | error reason => cases parts
  | ok v =>
    obtain ⟨rfl, rfl⟩ := Prod.mk.inj (Option.some.inj parts)
    rfl

theorem readValid_longCode :
    Http.Service.readValid Shop.VoucherRequest.decoder (·.violations) .epoch (redeeming longCode) =
      .ok ⟨"A_B", "C"⟩ :=
  Shop.VoucherRequest.eq_ok_of_parts (by decide +kernel)

theorem readValid_longUser :
    Http.Service.readValid Shop.VoucherRequest.decoder (·.violations) .epoch (redeeming longUser) =
      .ok ⟨"A", "B_C"⟩ :=
  Shop.VoucherRequest.eq_ok_of_parts (by decide +kernel)

/-- A voucher with blanks around its texts has the key of the one without. The key of "A_B" for "C"
is blurred, and it is the key of "A" for "B_C", as the end of the code moves to the front of the
user. -/
theorem composite_key_determines_vouchers :
    let names := ["voucherCode", "userId"]
    let padded : Shop.VoucherRequest := ⟨" A", "B_C "⟩
    let v : Shop.VoucherRequest := ⟨"A_B", "C"⟩
    let v' : Shop.VoucherRequest := ⟨"A", "B_C"⟩
    (∀ name ∈ names, Extractor.textOf padded.toJson name = Extractor.textOf v'.toJson name) ∧
      (∃ members, (Extractor.fields names "_").extract ⟨.empty, some (.ofMembers members)⟩ =
          .ok "A_B_C" ∧
        ∃ name ∈ names, Extractor.textOf (.ofMembers members) name ≠
          Extractor.textOf v.toJson name) ∧
      v.Spills v' ∧
      ∃ key key',
        voucherService.voucherExtractor.extract
          ⟨(redeeming longCode).headers, some v.toJson⟩ = .ok key ∧
        voucherService.voucherExtractor.extract
          ⟨(redeeming longUser).headers, some v'.toJson⟩ = .ok key' ∧
        key = key' := by
  intro names padded v v'
  obtain ⟨agree, blurred, vouchers⟩ := composite_key_determines
  have spills : v.Spills v' := ⟨"B", by decide +kernel, by decide +kernel⟩
  refine ⟨?_, ?_, spills, ?_⟩
  · refine agree names "_" "A_B_C" .empty .empty padded.toJson v'.toJson ?_ ?_
      (padded.not_blurs_of_notMem (by decide +kernel)) (v'.not_blurs_of_notMem (by decide +kernel))
    · exact padded.extract_toJson (by decide +kernel) (by decide +kernel) (by decide +kernel) _
    · exact v'.extract_toJson (by decide +kernel) (by decide +kernel) (by decide +kernel) _
  · refine blurred names "_" "A_B_C" .empty v.toJson (by decide +kernel) ?_ ?_
    · exact v.extract_toJson (by decide +kernel) (by decide +kernel) (by decide +kernel) _
    · have cut : (Text.trim v.voucherCode).toList ++ ['_'] = ['A'] ++ (['_'] ++ ['B', '_']) := by
        decide +kernel
      rw [← v.textOf_toJson.1] at cut
      exact ⟨"voucherCode", by simp [names], ['A'], ['B', '_'], by simp, by simp, cut,
        by rintro c ⟨⟩; rfl, by rintro c ⟨⟩; rfl⟩
  · obtain ⟨key, key', found, found', same⟩ := vouchers _ voucherService .epoch .epoch
      (redeeming longCode) (redeeming longUser) v v' readValid_longCode readValid_longUser
      (keyless_redeeming _) (keyless_redeeming _)
    exact ⟨key, key', found, found', same.2 (.inr (.inl spills))⟩

/-- Bodies with one key may give different texts, and so may requests for vouchers that are valid
and bring no key along. -/
theorem not_composite_key_determines :
    (¬∀ (names : List String) (separator key : String) (headers headers' : Headers)
      (body body' : Json), names ≠ [] →
      (Extractor.fields names separator).extract ⟨headers, some body⟩ = .ok key →
      (Extractor.fields names separator).extract ⟨headers', some body'⟩ = .ok key →
      ∀ name ∈ names, Extractor.textOf body name = Extractor.textOf body' name) ∧
    ¬∀ (σ : Type) (s : Http.Service σ) (now : Instant) (r r' : Http.Request)
      (v v' : Shop.VoucherRequest) (key : String),
      Http.Service.readValid Shop.VoucherRequest.decoder (·.violations) now r = .ok v →
      Http.Service.readValid Shop.VoucherRequest.decoder (·.violations) now r' = .ok v' →
      s.Keyless r → s.Keyless r' →
      s.voucherExtractor.extract ⟨r.headers, some v.toJson⟩ = .ok key →
      s.voucherExtractor.extract ⟨r'.headers, some v'.toJson⟩ = .ok key →
      Text.trim v.voucherCode = Text.trim v'.voucherCode := by
  have different : Text.trim "A_B" ≠ Text.trim "A" := by decide +kernel
  constructor
  · intro agree
    let v : Shop.VoucherRequest := ⟨"A_B", "C"⟩
    let v' : Shop.VoucherRequest := ⟨"A", "B_C"⟩
    have same := agree ["voucherCode", "userId"] "_" "A_B_C" .empty .empty v.toJson v'.toJson
      (by simp) (v.extract_toJson (by decide +kernel) (by decide +kernel) (by decide +kernel) _)
      (v'.extract_toJson (by decide +kernel) (by decide +kernel) (by decide +kernel) _)
      "voucherCode" (by simp)
    rw [v.textOf_toJson.1, v'.textOf_toJson.1] at same
    exact different same
  · intro agree
    have same := agree _ voucherService .epoch (redeeming longCode) (redeeming longUser)
      ⟨"A_B", "C"⟩ ⟨"A", "B_C"⟩ "A_B_C" readValid_longCode readValid_longUser (keyless_redeeming _)
      (keyless_redeeming _)
      (Http.Service.extract_voucher readValid_longCode (keyless_redeeming _) (by decide +kernel))
      (Http.Service.extract_voucher readValid_longUser (keyless_redeeming _) (by decide +kernel))
    exact different same

end Turnstile
