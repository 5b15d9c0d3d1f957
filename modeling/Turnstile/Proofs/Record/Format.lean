import Turnstile.Proofs.Json.Accepted
import Turnstile.Proofs.Record.Owner
import Turnstile.Proofs.Record.RoundTrip
import Turnstile.Proofs.Text.Signs

/-!
The flat form of a record as a format of its own. `WellFormed` says which fields hold a record and
`Means` which record they hold, by the grammars of the texts and not by their readers; only the last
text of a name counts. Main statement: decoding accepts the well-formed fields and no others,
whatever stands between them and in whatever order the names come, and what it accepts comes back
from the flat form (`decode_exact`).
-/

namespace Turnstile.Record.Wire

/-! ## Fields -/

/-- The names of the fields of a record. -/
def fieldNames : List String :=
  ["state", "owner", "created_at", "expires_at", "status", "payload"]

/-- The last of the texts that are given for a name. -/
def lastText? (fields : List (String × String)) (name : String) : Option String :=
  ((fields.filter (·.1 = name)).getLast?).map Prod.snd

/-- Fields with further ones of other names anywhere between them. -/
inductive Padded : List (String × String) → List (String × String) → Prop
  | nil : Padded [] []
  | keep {fields padded : List (String × String)} (pair : String × String)
      (h : Padded fields padded) : Padded (pair :: fields) (pair :: padded)
  | add {fields padded : List (String × String)} {name : String} (text : String)
      (other : name ∉ fieldNames) (h : Padded fields padded) :
      Padded fields ((name, text) :: padded)

/-- A name is given, and its text is of a certain kind. -/
def Given (fields : List (String × String)) (name : String) (kind : String → Prop) : Prop :=
  ∃ text, lastText? fields name = some text ∧ kind text

/-! ## The format -/

/-- The text of an owner: 32 hexadecimal digits in one of four forms. -/
def IsOwner (text : String) : Prop :=
  ∃ digits, digits.length = 32 ∧ (∀ c ∈ digits, (Text.hexValue? c).isSome) ∧
    Token.Form digits text.toList

/-- The text of a time: an integer of 64 bits that is a number of milliseconds in the range of the
calendar. -/
def IsMillis (text : String) : Prop :=
  ∃ ms, Text.Signed text.toList ms ∧
    (-9223372036854775808 ≤ ms ∧ ms ≤ 9223372036854775807) ∧
    -8334601228800000 ≤ ms ∧ ms ≤ 8210266876799999

/-- The text of a status: a natural number of 16 bits. -/
def IsStatus (text : String) : Prop := ∃ n, Text.Unsigned text.toList n ∧ n ≤ 65535

/-- The text of a payload: a document of JSON. -/
def IsPayload (text : String) : Prop := ∃ j, Json.Document text.toList j

/-- The fields hold a record. A lease needs neither a status nor a payload, a completed record needs
a status. -/
structure WellFormed (fields : List (String × String)) : Prop where
  state : Given fields "state" fun text => text = "PENDING" ∨ text = "COMPLETED"
  owner : Given fields "owner" IsOwner
  createdAt : Given fields "created_at" IsMillis
  expiresAt : Given fields "expires_at" IsMillis
  status : lastText? fields "state" = some "COMPLETED" → Given fields "status" IsStatus
  payload : lastText? fields "state" = some "COMPLETED" →
    ∀ text, lastText? fields "payload" = some text → IsPayload text

/-! ## The record of fields -/

/-- The text names a time in milliseconds. -/
def NamesTime (t : Instant) (text : String) : Prop := t.Whole ∧ Text.Signed text.toList t.millis

/-- What the fields of a lease hold. -/
structure MeansLease (fields : List (String × String)) (state : State) (owner : Token)
    (createdAt expiresAt : Instant) : Prop where
  state : lastText? fields "state" = some state.text
  owner : Given fields "owner" fun text => Token.Named text.toList owner
  createdAt : Given fields "created_at" (NamesTime createdAt)
  expiresAt : Given fields "expires_at" (NamesTime expiresAt)

/-- What the payload among the fields is: null if it is missing. -/
inductive MeansPayload (fields : List (String × String)) : Json → Prop
  | absent (h : lastText? fields "payload" = none) : MeansPayload fields .null
  | given {j : Json} (h : Given fields "payload" fun text => Json.Document text.toList j) :
      MeansPayload fields j

/-- The record that fields hold under a key. -/
inductive Means (key : String) (fields : List (String × String)) : Record → Prop
  | pending {owner : Token} {createdAt expiresAt : Instant}
      (lease : MeansLease fields .pending owner createdAt expiresAt) :
      Means key fields ⟨key, .pending, owner, none, none, createdAt, expiresAt⟩
  | completed {owner : Token} {createdAt expiresAt : Instant} {code : UInt16} {payload : Json}
      (lease : MeansLease fields .completed owner createdAt expiresAt)
      (status : Given fields "status" fun text => Text.Unsigned text.toList code.toNat)
      (body : MeansPayload fields payload) :
      Means key fields ⟨key, .completed, owner, some code, some payload, createdAt, expiresAt⟩

variable {key name : String} {fields : List (String × String)} {r : Record}

/-! ## Which fields count -/

theorem find?_ofList (fields : List (String × String)) (name : String) :
    (Table.ofList fields).find? name = lastText? fields name := by
  induction fields using List.reverseRecOn with
  | nil => rfl
  | append_singleton front pair ih =>
    obtain ⟨given, text⟩ := pair
    have step : Table.ofList (front ++ [(given, text)]) =
        (Table.ofList front).insert given text := by
      rw [Table.ofList, List.foldl_append]
      rfl
    rw [step, Table.find?_insert, ih, lastText?, lastText?, List.filter_append]
    by_cases same : name = given
    · subst same
      rw [if_pos rfl, List.filter_cons_of_pos (by simp), List.filter_nil, List.getLast?_concat]
      rfl
    · have other : ¬given = name := fun h => same h.symm
      rw [if_neg same, List.filter_cons_of_neg (by simpa using other), List.filter_nil,
        List.append_nil]

theorem Padded.filter_eq {padded : List (String × String)} (h : Padded fields padded)
    (known : name ∈ fieldNames) : padded.filter (·.1 = name) = fields.filter (·.1 = name) := by
  induction h with
  | nil => rfl
  | keep pair _ ih => rw [List.filter_cons, List.filter_cons, ih]
  | add text other _ ih =>
    rename_i given _
    have differ : ¬given = name := by
      rintro rfl
      exact other known
    rw [List.filter_cons_of_neg (by simpa using differ), ih]

theorem Padded.ne_nil {padded : List (String × String)} (h : Padded fields padded)
    (given : fields ≠ []) : padded ≠ [] := by
  cases h with
  | nil => exact given
  | keep pair _ => exact List.cons_ne_nil _ _
  | add text _ _ => exact List.cons_ne_nil _ _

theorem parsed_congr {α : Type} {a b : Table String} {read? : String → Option α}
    (same : a.find? name = b.find? name) : parsed key a name read? = parsed key b name read? := by
  rw [parsed, parsed, required, required, same]

/-- Only the pairs of the six names count, each name for itself. -/
theorem decode_congr {others : List (String × String)} (given : fields ≠ []) (given' : others ≠ [])
    (same : ∀ name ∈ fieldNames, others.filter (·.1 = name) = fields.filter (·.1 = name)) :
    decode key others = decode key fields := by
  have found : ∀ name ∈ fieldNames,
      (Table.ofList others).find? name = (Table.ofList fields).find? name := by
    intro name known
    rw [find?_ofList, find?_ofList, lastText?, lastText?, same name known]
  have parse : ∀ {α : Type} (name : String) (read? : String → Option α), name ∈ fieldNames →
      parsed key (.ofList others) name read? = parsed key (.ofList fields) name read? :=
    fun name read? known => parsed_congr (found name known)
  unfold decode
  rw [if_neg (by simpa using given'), if_neg (by simpa using given)]
  simp only [parse "state" State.read? (by decide), parse "owner" Token.read? (by decide),
    parse "created_at" readMillis? (by decide), parse "expires_at" readMillis? (by decide),
    parse "status" readStatus? (by decide), found "payload" (by decide)]

/-! ## Texts and their readers -/

theorem parsed_eq_ok_iff_given {α : Type} {read? : String → Option α} {a : α} :
    parsed key (.ofList fields) name read? = .ok a ↔
      Given fields name fun text => read? text = some a := by
  rw [parsed_eq_ok_iff, find?_ofList]
  rfl

theorem given_congr {kind other : String → Prop} (same : ∀ text, kind text ↔ other text) :
    Given fields name kind ↔ Given fields name other :=
  exists_congr fun text => and_congr_right fun _ => same text

theorem Given.exists_iff {α : Type} {kind : α → String → Prop} :
    (∃ a, Given fields name (kind a)) ↔ Given fields name fun text => ∃ a, kind a text := by
  constructor
  · rintro ⟨a, text, last, h⟩
    exact ⟨text, last, a, h⟩
  · rintro ⟨text, last, a, h⟩
    exact ⟨a, text, last, h⟩

theorem parsed_state_iff {state : State} :
    parsed key (.ofList fields) "state" State.read? = .ok state ↔
      lastText? fields "state" = some state.text := by
  rw [parsed_eq_ok_iff_given]
  constructor
  · rintro ⟨text, last, read⟩
    rwa [← eq_text_of_read? read]
  · intro last
    exact ⟨state.text, last, read?_text state⟩

theorem parsed_owner_iff {owner : Token} :
    parsed key (.ofList fields) "owner" Token.read? = .ok owner ↔
      Given fields "owner" fun text => Token.Named text.toList owner := by
  rw [parsed_eq_ok_iff_given]
  exact given_congr fun _ => Token.read?_eq_some_iff

theorem readMillis?_eq_some_iff {text : String} {t : Instant} :
    readMillis? text = some t ↔ NamesTime t text := by
  unfold readMillis? NamesTime
  simp only [Option.bind_eq_some_iff, Text.readSigned?_eq_some_iff, Instant.ofMillis?_eq_some_iff]
  constructor
  · rintro ⟨ms, ⟨numeral, -⟩, whole, rfl⟩
    exact ⟨whole, numeral⟩
  · rintro ⟨whole, numeral⟩
    exact ⟨t.millis, ⟨numeral, t.millis_bounds⟩, whole, rfl⟩

theorem parsed_time_iff {t : Instant} :
    parsed key (.ofList fields) name readMillis? = .ok t ↔ Given fields name (NamesTime t) := by
  rw [parsed_eq_ok_iff_given]
  exact given_congr fun _ => readMillis?_eq_some_iff

theorem readStatus?_eq_some_iff {text : String} {code : UInt16} :
    readStatus? text = some code ↔ Text.Unsigned text.toList code.toNat := by
  unfold readStatus?
  simp only [Option.map_eq_some_iff, Text.readBelow?_eq_some_iff]
  constructor
  · rintro ⟨n, ⟨numeral, small⟩, rfl⟩
    rwa [UInt16.toNat_ofNat_of_lt' small]
  · intro numeral
    exact ⟨code.toNat, ⟨numeral, code.toNat_lt⟩, UInt16.ofNat_toNat⟩

theorem parsed_status_iff {code : UInt16} :
    parsed key (.ofList fields) "status" readStatus? = .ok code ↔
      Given fields "status" fun text => Text.Unsigned text.toList code.toNat := by
  rw [parsed_eq_ok_iff_given]
  exact given_congr fun _ => readStatus?_eq_some_iff

theorem readPayload_eq_ok_iff {text : String} {j : Json} :
    readPayload text = .ok j ↔ Json.Document text.toList j := by
  rw [← Json.read?_eq_ok_iff, readPayload]
  cases Json.read? text <;> simp

/-! ## Decoding -/

/-- What is decoded is a record, and the one that the fields hold. -/
theorem means_of_decode {found : Option Record} (given : fields ≠ [])
    (decoded : decode key fields = .ok found) : ∃ r, found = some r ∧ Means key fields r := by
  obtain ⟨state, owner, createdAt, expiresAt, hstate, howner, hstart, hends, parts⟩ :=
    exists_of_decode given decoded
  have lease : MeansLease fields state owner createdAt expiresAt :=
    ⟨parsed_state_iff.1 hstate, parsed_owner_iff.1 howner, parsed_time_iff.1 hstart,
      parsed_time_iff.1 hends⟩
  rcases parts with ⟨rfl, same⟩ | ⟨rfl, code, payload, hstatus, body, same⟩
  · exact ⟨_, same, .pending lease⟩
  · refine ⟨_, same, .completed lease (parsed_status_iff.1 hstatus) ?_⟩
    rcases body with ⟨last, rfl⟩ | ⟨text, last, read⟩
    · rw [find?_ofList] at last
      exact .absent last
    · rw [find?_ofList] at last
      exact .given ⟨text, last, readPayload_eq_ok_iff.1 read⟩

theorem decode_of_means (given : fields ≠ []) (h : Means key fields r) :
    decode key fields = .ok (some r) := by
  unfold decode
  rw [if_neg (by simpa using given)]
  cases h with
  | pending lease =>
    simp only [parsed_state_iff.2 lease.state, parsed_owner_iff.2 lease.owner,
      parsed_time_iff.2 lease.createdAt, parsed_time_iff.2 lease.expiresAt]
    rfl
  | completed lease status body =>
    simp only [parsed_state_iff.2 lease.state, parsed_owner_iff.2 lease.owner,
      parsed_time_iff.2 lease.createdAt, parsed_time_iff.2 lease.expiresAt,
      parsed_status_iff.2 status]
    cases body with
    | absent last =>
      rw [← find?_ofList] at last
      simp only [last]
      rfl
    | given h =>
      obtain ⟨text, last, document⟩ := h
      rw [← find?_ofList] at last
      simp only [last, readPayload_eq_ok_iff.2 document]
      rfl

theorem decode_eq_iff (given : fields ≠ []) :
    decode key fields = .ok (some r) ↔ Means key fields r := by
  constructor
  · intro decoded
    obtain ⟨_, same, h⟩ := means_of_decode given decoded
    rwa [Option.some.inj same]
  · exact decode_of_means given

/-! ## Fields that hold a record -/

theorem isOwner_iff {text : String} : IsOwner text ↔ ∃ t, Token.Named text.toList t :=
  Token.exists_named_iff.symm

theorem isMillis_iff {text : String} : IsMillis text ↔ ∃ t, NamesTime t text := by
  constructor
  · rintro ⟨ms, numeral, -, range⟩
    obtain ⟨t, named⟩ := Instant.exists_ofMillis?_iff.2 range
    obtain ⟨whole, rfl⟩ := Instant.ofMillis?_eq_some_iff.1 named
    exact ⟨t, whole, numeral⟩
  · rintro ⟨t, whole, numeral⟩
    have range := Instant.exists_ofMillis?_iff.1 ⟨t, whole.ofMillis?_millis⟩
    exact ⟨t.millis, numeral, by omega, range⟩

theorem isStatus_iff {text : String} :
    IsStatus text ↔ ∃ code : UInt16, Text.Unsigned text.toList code.toNat := by
  constructor
  · rintro ⟨n, numeral, small⟩
    refine ⟨UInt16.ofNat n, ?_⟩
    rwa [UInt16.toNat_ofNat_of_lt' (show n < 65536 by omega)]
  · rintro ⟨code, numeral⟩
    have := code.toNat_lt
    exact ⟨code.toNat, numeral, by omega⟩

theorem exists_lease_iff (state : State) :
    (∃ owner createdAt expiresAt, MeansLease fields state owner createdAt expiresAt) ↔
      lastText? fields "state" = some state.text ∧ Given fields "owner" IsOwner ∧
        Given fields "created_at" IsMillis ∧ Given fields "expires_at" IsMillis := by
  rw [given_congr (fun _ => isOwner_iff), given_congr (fun _ => isMillis_iff),
    given_congr (fun _ => isMillis_iff), ← Given.exists_iff, ← Given.exists_iff,
    ← Given.exists_iff]
  constructor
  · rintro ⟨owner, createdAt, expiresAt, lease⟩
    exact ⟨lease.state, ⟨owner, lease.owner⟩, ⟨createdAt, lease.createdAt⟩,
      ⟨expiresAt, lease.expiresAt⟩⟩
  · rintro ⟨state, ⟨owner, howner⟩, ⟨createdAt, hstart⟩, ⟨expiresAt, hends⟩⟩
    exact ⟨owner, createdAt, expiresAt, state, howner, hstart, hends⟩

theorem exists_payload_iff : (∃ j, MeansPayload fields j) ↔
    ∀ text, lastText? fields "payload" = some text → IsPayload text := by
  constructor
  · rintro ⟨j, body⟩ text last
    cases body with
    | absent none =>
      rw [none] at last
      cases last
    | given h =>
      obtain ⟨_, same, document⟩ := h
      rw [last] at same
      cases same
      exact ⟨j, document⟩
  · intro body
    cases last : lastText? fields "payload" with
    | none => exact ⟨.null, .absent last⟩
    | some text =>
      obtain ⟨j, document⟩ := body text last
      exact ⟨j, .given ⟨text, last, document⟩⟩

/-- Fields are well-formed exactly if they hold a record. -/
theorem wellFormed_iff (key : String) : WellFormed fields ↔ ∃ r, Means key fields r := by
  constructor
  · rintro ⟨⟨text, last, pending | completed⟩, owner, createdAt, expiresAt, status, body⟩
    · rw [pending] at last
      obtain ⟨_, _, _, lease⟩ :=
        (exists_lease_iff .pending).2 ⟨last, owner, createdAt, expiresAt⟩
      exact ⟨_, .pending lease⟩
    · rw [completed] at last
      obtain ⟨_, _, _, lease⟩ :=
        (exists_lease_iff .completed).2 ⟨last, owner, createdAt, expiresAt⟩
      have numbered := (given_congr fun _ => isStatus_iff).1 (status last)
      obtain ⟨code, coded⟩ := Given.exists_iff.2 numbered
      obtain ⟨payload, means⟩ := exists_payload_iff.2 (body last)
      exact ⟨_, .completed lease coded means⟩
  · rintro ⟨r, h⟩
    cases h with
    | pending lease =>
      obtain ⟨last, owner, createdAt, expiresAt⟩ := (exists_lease_iff _).1 ⟨_, _, _, lease⟩
      have leased : lastText? fields "state" ≠ some "COMPLETED" := by
        rw [last]
        decide
      exact ⟨⟨_, last, .inl rfl⟩, owner, createdAt, expiresAt, fun h => absurd h leased,
        fun h => absurd h leased⟩
    | completed lease status body =>
      obtain ⟨last, owner, createdAt, expiresAt⟩ := (exists_lease_iff _).1 ⟨_, _, _, lease⟩
      have numbered := (given_congr fun _ => isStatus_iff).2 (Given.exists_iff.1 ⟨_, status⟩)
      exact ⟨⟨_, last, .inr rfl⟩, owner, createdAt, expiresAt, fun _ => numbered,
        fun _ => exists_payload_iff.1 ⟨_, body⟩⟩

/-! ## Back again -/

/-- A document without floating-point numbers survives its text. -/
theorem portable_of_document {text : List Char} {j : Json} (h : Json.Document text j)
    (integral : j.noDouble = true) : j.Portable := by
  obtain ⟨before, body, after, -, spelled, -, -⟩ := h
  exact ⟨spelled.canonical, integral, spelled.depth_le⟩

/-- The record that fields hold is one that a flat form can hold. -/
theorem Means.portable (h : Means key fields r)
    (integral : ∀ j ∈ r.payload, j.noDouble = true) : r.Portable := by
  cases h with
  | pending lease =>
    obtain ⟨_, -, created, -⟩ := lease.createdAt
    obtain ⟨_, -, ends, -⟩ := lease.expiresAt
    exact .pending created ends
  | completed lease status body =>
    obtain ⟨_, -, created, -⟩ := lease.createdAt
    obtain ⟨_, -, ends, -⟩ := lease.expiresAt
    refine .completed created ends ?_
    cases body with
    | absent => exact ⟨.null, rfl, Nat.zero_le _⟩
    | given h =>
      obtain ⟨text, -, document⟩ := h
      exact portable_of_document document (integral _ rfl)

theorem Means.key_eq (h : Means key fields r) : r.key = key := by
  cases h <;> rfl

theorem Means.decode_encode_eq (h : Means key fields r)
    (integral : ∀ j ∈ r.payload, j.noDouble = true) :
    decode key (encode r) = .ok (some r) := by
  rw [← h.key_eq]
  exact decode_of_describes (h.portable integral) (describes_insert_all .empty r)

/-- Decoding accepts exactly the format. Of fields that are not none it makes the record that they
hold, if they are well-formed, and a fault otherwise, but never no record. Fields of other names
between them change nothing, a fault included, and neither does another order that keeps the fields
of one name in theirs. A record that it makes without floating-point numbers comes back from its own
flat form. -/
theorem decode_exact (key : String) {fields : List (String × String)} (given : fields ≠ []) :
    (∀ r, decode key fields = .ok (some r) ↔ Means key fields r) ∧
      ((∃ r, decode key fields = .ok (some r)) ↔ WellFormed fields) ∧
      (¬WellFormed fields → ∃ fault, decode key fields = .error fault) ∧
      decode key fields ≠ .ok none ∧
      (∀ padded, Padded fields padded → decode key padded = decode key fields) ∧
      (∀ permuted, permuted.Perm fields →
        (∀ name, permuted.filter (·.1 = name) = fields.filter (·.1 = name)) →
        decode key permuted = decode key fields) ∧
      (∀ r, decode key fields = .ok (some r) → (∀ j ∈ r.payload, j.noDouble = true) →
        decode key (encode r) = .ok (some r)) := by
  have accepted : (∃ r, decode key fields = .ok (some r)) ↔ WellFormed fields := by
    rw [wellFormed_iff key]
    exact exists_congr fun r => decode_eq_iff given
  have never : decode key fields ≠ .ok none := by
    intro decoded
    obtain ⟨r, same, -⟩ := means_of_decode given decoded
    cases same
  refine ⟨fun r => decode_eq_iff given, accepted, ?_, never, ?_, ?_, ?_⟩
  · intro malformed
    cases decoded : decode key fields with
    | error fault => exact ⟨fault, rfl⟩
    | ok found =>
      cases found with
      | none => exact absurd decoded never
      | some r => exact absurd (accepted.1 ⟨r, decoded⟩) malformed
  · intro padded h
    exact decode_congr given (h.ne_nil given) fun name known => h.filter_eq known
  · intro permuted perm same
    have some' : permuted ≠ [] := by
      rintro rfl
      exact given perm.nil_eq.symm
    exact decode_congr given some' fun name _ => same name
  · intro r decoded integral
    exact ((decode_eq_iff given).1 decoded).decode_encode_eq integral

/-! Fields of a completed record, in no order, with another one between them and two names twice. -/

/-- The fields. -/
def scattered : List (String × String) := [
  ("payload", "[1, 2"),
  ("expires_at", "+60000"),
  ("note", "moved"),
  ("owner", "urn:uuid:00000000-0000-0000-0000-00000000002A"),
  ("status", "00201"),
  ("state", "PENDING"),
  ("created_at", "-1"),
  ("payload", " [12, null]\n"),
  ("state", "COMPLETED")]

/-- The record that they hold. -/
def gathered : Record where
  key := "shop:k"
  state := .completed
  owner := .ofNat 42
  status := some 201
  payload := some (.array [.int 12, .null])
  createdAt := (Instant.ofParts? (-1) 999000000).getD .epoch
  expiresAt := (Instant.ofParts? 60 0).getD .epoch

theorem document_gathered :
    Json.Document " [12, null]\n".toList (.array [.int 12, .null]) := by
  have tight : Json.Blanks [] := by decide
  have space : Json.Blanks [' '] := by decide
  have digits : ∀ c ∈ ['1', '2'], Text.isDigit c = true := List.all_eq_true.1 rfl
  have twelve : Json.NumeralText ⟨false, ['1', '2'], [], none⟩ ['1', '2'] :=
    .mk (by decide) (by decide) digits .none .none
  have items : Json.SpellsItems 126 "12, null".toList [.int 12, .null] :=
    .more tight (.number twelve rfl) tight (.last space .null tight)
  exact ⟨[' '], _, ['\n'], by decide, .array items, by decide, rfl⟩

theorem means_scattered : Means "shop:k" scattered gathered := by
  have scheme : "urn:uuid:".toList.map Char.toLower = "urn:uuid:".toList := by decide
  have owner : Token.Named "urn:uuid:00000000-0000-0000-0000-00000000002A".toList (.ofNat 42) :=
    ⟨"0000000000000000000000000000002A".toList, by decide, by decide, .scheme scheme⟩
  have start : Text.Digits ['1'] 1 := Text.readDigits?_eq_some_iff.1 rfl
  have ends : Text.Digits ['6', '0', '0', '0', '0'] 60000 := Text.readDigits?_eq_some_iff.1 rfl
  have code : Text.Digits ['0', '0', '2', '0', '1'] 201 := Text.readDigits?_eq_some_iff.1 rfl
  have lease : MeansLease scattered .completed gathered.owner gathered.createdAt
      gathered.expiresAt :=
    ⟨by decide, ⟨_, by decide, owner⟩, ⟨"-1", by decide, by decide, .minus start⟩,
      ⟨"+60000", by decide, by decide, .plus ends⟩⟩
  exact .completed lease ⟨"00201", by decide, .plain code⟩
    (.given ⟨_, by decide, document_gathered⟩)

theorem decode_exact_scattered :
    scattered ≠ [] ∧ decode "shop:k" scattered = .ok (some gathered) ∧
      decode "shop:k" (encode gathered) = .ok (some gathered) := by
  have given : scattered ≠ [] := List.cons_ne_nil _ _
  obtain ⟨accepts, -, -, -, -, -, back⟩ := decode_exact "shop:k" given
  have decoded := (accepts gathered).2 means_scattered
  refine ⟨given, decoded, back gathered decoded ?_⟩
  rintro j ⟨⟩
  rfl

end Turnstile.Record.Wire
