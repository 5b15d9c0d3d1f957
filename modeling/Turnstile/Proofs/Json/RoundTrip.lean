import Turnstile.Proofs.Json.Depth
import Turnstile.Proofs.Json.Double
import Turnstile.Proofs.Json.Members
import Turnstile.Proofs.Json.Scalar

/-!
The compact text of a JSON value reads back as the value, as long as it holds no floating-point
number and is not nested too deeply (`read?_text`). The text of a value that is nested too deeply is
refused (`read?_text_of_deep`).
-/

namespace Turnstile.Json

namespace Written

/-! ## Single steps of the reader -/

theorem skipSpace_cons {c : Char} (h : isSpace c = false) (cs : List Char) :
    skipSpace (c :: cs) = c :: cs := by
  rw [skipSpace, List.dropWhile_cons_of_neg (by simp [h])]

theorem isSpace_of_isDigit {c : Char} (h : Text.isDigit c = true) : isSpace c = false := by
  have space := Text.ne_of_isDigit h (d := ' ') rfl
  have newline := Text.ne_of_isDigit h (d := '\n') rfl
  have tab := Text.ne_of_isDigit h (d := '\t') rfl
  have carriage := Text.ne_of_isDigit h (d := '\r') rfl
  simp [isSpace, space, newline, tab, carriage]

/-- A digit starts a number. -/
theorem readValue_digit {fuel : Nat} {c : Char} (h : Text.isDigit c = true) (cs : List Char) :
    readValue (fuel + 1) (c :: cs) = readNumber false (c :: cs) := by
  have n := Text.ne_of_isDigit h (d := 'n') rfl
  have t := Text.ne_of_isDigit h (d := 't') rfl
  have f := Text.ne_of_isDigit h (d := 'f') rfl
  have quote := Text.ne_of_isDigit h (d := '"') rfl
  have minus := Text.ne_of_isDigit h (d := '-') rfl
  simp [readValue, skipSpace_cons (isSpace_of_isDigit h), n, t, f, quote, minus, h]

/-- A minus sign starts a negative number. -/
theorem readValue_minus (fuel : Nat) (cs : List Char) :
    readValue (fuel + 1) ('-' :: cs) = readNumber true cs := by
  simp [readValue, skipSpace_cons (show isSpace '-' = false from rfl)]

/-- A quote starts a string. -/
theorem readValue_quote (fuel : Nat) (s : String) (rest : List Char) :
    readValue (fuel + 1) (quote s ++ rest) = (.string s, some rest) := by
  have read := readString_quote s rest
  simp [readValue, quote, skipSpace_cons (show isSpace '"' = false from rfl), read]

/-- A bracket starts an array. -/
theorem readValue_bracket (fuel : Nat) {c : Char} {cs : List Char} (space : isSpace c = false)
    (bracket : c ≠ ']') :
    readValue (fuel + 1) ('[' :: c :: cs) =
      ((.array (readItems fuel (c :: cs)).1), (readItems fuel (c :: cs)).2) := by
  have notDigit : Text.isDigit '[' = false := rfl
  simp only [readValue, skipSpace_cons (show isSpace '[' = false from rfl), skipSpace_cons space,
    notDigit, Char.reduceEq, if_false, Bool.false_eq_true, if_true]
  split
  · rename_i same
    exact absurd (List.cons.inj same).1 bracket
  · rfl

/-- A brace starts an object. -/
theorem readValue_brace (fuel : Nat) (cs : List Char) :
    readValue (fuel + 1) ('\x7b' :: '"' :: cs) =
      ((.object (readMembers fuel ('"' :: cs)).1), (readMembers fuel ('"' :: cs)).2) := by
  have notDigit : Text.isDigit '\x7b' = false := rfl
  simp only [readValue, skipSpace_cons (show isSpace '\x7b' = false from rfl),
    skipSpace_cons (show isSpace '"' = false from rfl), notDigit, Char.reduceEq, if_false,
    Bool.false_eq_true, if_true]
  rfl

/-! ## What is read from the text of a value -/

mutual

/-- What is read from the text of a value: the value, but for a floating-point number the number
that its numeral names. -/
def reread : Json → Written
  | .null => .null
  | .bool b => .bool b
  | .number (.int i) => .number (.int i)
  | .number (.double d) => ofNumeral d.numeral
  | .string s => .string s
  | .array items => .array (rereadItems items)
  | .object members => .object (rereadMembers members)

/-- What is read from the texts of items. -/
def rereadItems : List Json → List Written
  | [] => []
  | j :: rest => reread j :: rereadItems rest

/-- What is read from the texts of members. -/
def rereadMembers : List (String × Json) → List (Option String × Written)
  | [] => []
  | (name, j) :: rest => (some name, reread j) :: rereadMembers rest

end

mutual

/-- Without floating-point numbers it is the value itself. -/
theorem reread_of_noDouble : ∀ j : Json, j.noDouble = true → reread j = ofJson j
  | .null, _ => rfl
  | .bool _, _ => rfl
  | .number (.int _), _ => rfl
  | .number (.double _), integral => by cases integral
  | .string _, _ => rfl
  | .array items, integral => by
    rw [reread, ofJson, rereadItems_of_noDouble items integral]
  | .object members, integral => by
    rw [reread, ofJson, rereadMembers_of_noDouble members integral]

theorem rereadItems_of_noDouble : ∀ items : List Json, noDoubleItems items = true →
    rereadItems items = ofItems items
  | [], _ => rfl
  | j :: rest, integral => by
    obtain ⟨first, others⟩ := Bool.and_eq_true_iff.1 integral
    rw [rereadItems, ofItems, reread_of_noDouble j first, rereadItems_of_noDouble rest others]

theorem rereadMembers_of_noDouble : ∀ members : List (String × Json),
    noDoubleMembers members = true → rereadMembers members = ofMembers members
  | [], _ => rfl
  | (name, j) :: rest, integral => by
    obtain ⟨first, others⟩ := Bool.and_eq_true_iff.1 integral
    rw [rereadMembers, ofMembers, reread_of_noDouble j first, rereadMembers_of_noDouble rest others]

end

mutual

/-- It is nested as deeply as the value. -/
theorem depth_reread : ∀ j : Json, (reread j).depth = j.depth
  | .null => rfl
  | .bool _ => rfl
  | .number (.int _) => rfl
  | .number (.double d) => by
    rw [reread, ofNumeral]
    split <;> rfl
  | .string _ => rfl
  | .array items => by rw [reread, depth, Json.depth, depthItems_reread items]
  | .object members => by rw [reread, depth, Json.depth, depthMembers_reread members]

theorem depthItems_reread : ∀ items : List Json,
    depthItems (rereadItems items) = Json.depthItems items
  | [] => rfl
  | j :: rest => by
    rw [rereadItems, depthItems, Json.depthItems, depth_reread j, depthItems_reread rest]

theorem depthMembers_reread : ∀ members : List (String × Json),
    depthMembers (rereadMembers members) = Json.depthMembers members
  | [] => rfl
  | (name, j) :: rest => by
    rw [rereadMembers, depthMembers, Json.depthMembers, depth_reread j, depthMembers_reread rest]

end

/-! ## Values -/

/-- The text of a floating-point number starts with a digit, or with a minus sign and a digit. -/
theorem exists_numeral_eq_cons (d : Double) :
    ∃ c cs, d.numeral.chars = c :: cs ∧ Text.isDigit c = true := by
  have proper := d.proper_numeral
  obtain ⟨c, cs, whole⟩ := List.exists_cons_of_ne_nil proper.started
  exact ⟨c, _, by rw [Numeral.chars, whole, List.cons_append],
    proper.whole c (by simp [whole])⟩

/-- The text of a value starts neither with a blank nor with a bracket that closes. -/
theorem exists_chars_eq_cons (j : Json) :
    ∃ c cs, j.chars = c :: cs ∧ isSpace c = false ∧ c ≠ ']' := by
  cases j with
  | null => exact ⟨_, _, rfl, rfl, by decide⟩
  | bool b => cases b <;> exact ⟨_, _, rfl, rfl, by decide⟩
  | string s => exact ⟨_, _, rfl, rfl, by decide⟩
  | array items => cases items <;> exact ⟨_, _, rfl, rfl, by decide⟩
  | object members =>
    cases members with
    | nil => exact ⟨_, _, rfl, rfl, by decide⟩
    | cons m rest => exact ⟨_, _, rfl, rfl, by decide⟩
  | number n =>
    cases n with
    | double d =>
      rw [chars, Number.chars, Double.toList_text, Double.signText]
      split
      · exact ⟨_, _, rfl, rfl, by decide⟩
      · obtain ⟨c, cs, text, digit⟩ := exists_numeral_eq_cons d
        exact ⟨c, cs, text, isSpace_of_isDigit digit, Text.ne_of_isDigit digit rfl⟩
    | int i =>
      by_cases negative : i < 0
      · exact ⟨_, _, Text.toList_writeInt_of_neg negative, rfl, by decide⟩
      · obtain ⟨c, cs, digits, digit⟩ := Text.exists_decimalDigits_eq_cons i.natAbs
        refine ⟨c, cs, ?_, isSpace_of_isDigit digit, Text.ne_of_isDigit digit rfl⟩
        rw [← digits]
        exact Text.toList_writeInt_of_nonneg (Int.not_lt.1 negative)

/-- The numeral of an integer of 64 bits is read as the integer. -/
theorem readValue_int {i : Int} (h : isInteger i = true) (fuel : Nat) {rest : List Char}
    (after : Follows rest) :
    readValue (fuel + 1) ((Text.writeInt i).toList ++ rest) = (.number (.int i), some rest) := by
  have read := readNumber_decimalDigits h after
  by_cases negative : i < 0
  · rw [Text.toList_writeInt_of_neg negative, List.cons_append, readValue_minus, ← read,
      decide_eq_true negative]
  · obtain ⟨c, cs, digits, digit⟩ := Text.exists_decimalDigits_eq_cons i.natAbs
    rw [decide_eq_false negative] at read
    rw [Text.toList_writeInt_of_nonneg (Int.not_lt.1 negative), ← read, digits, List.cons_append,
      readValue_digit digit]

/-- The numeral of a floating-point number is read, whatever number it names. -/
theorem readValue_double (d : Double) (fuel : Nat) {rest : List Char} (after : Follows rest) :
    readValue (fuel + 1) (d.text.toList ++ rest) = (ofNumeral d.numeral, some rest) := by
  have read := readNumeral?_chars after d.proper_numeral
  rw [d.negative_numeral] at read
  rw [Double.toList_text, Double.signText]
  cases negative : d.negative with
  | true =>
    rw [negative] at read
    rw [if_pos rfl, List.singleton_append, List.cons_append, readValue_minus, readNumber, read]
  | false =>
    obtain ⟨c, cs, text, digit⟩ := exists_numeral_eq_cons d
    rw [negative, text, List.cons_append] at read
    rw [if_neg Bool.false_ne_true, List.nil_append, text, List.cons_append, readValue_digit digit,
      readNumber, read]

/-- What closes or goes on with an array or an object follows a value. -/
theorem follows_itemsChars (items : List Json) (rest : List Char) :
    Follows (itemsChars items ++ rest) := by
  cases items <;> simp [Follows, itemsChars]

theorem follows_membersChars (members : List (String × Json)) (rest : List Char) :
    Follows (membersChars members ++ rest) := by
  cases members <;> simp [Follows, membersChars]

/-- Fuel for twice the length of a text that is not empty is a successor. -/
theorem exists_fuel {cs : List Char} {fuel : Nat} (started : cs ≠ [])
    (enough : 2 * cs.length ≤ fuel) : ∃ k, fuel = k + 1 := by
  have := List.length_pos_iff.2 started
  exact ⟨fuel - 1, by omega⟩

theorem chars_ne_nil (j : Json) : j.chars ≠ [] := by
  obtain ⟨c, cs, text, _⟩ := exists_chars_eq_cons j
  rw [text]
  exact List.cons_ne_nil c cs

mutual

/-- The text of a value is read as the value, given fuel for twice its length. -/
theorem readValue_chars : ∀ (j : Json) (fuel : Nat) (rest : List Char), Canonical j →
    2 * j.chars.length ≤ fuel → Follows rest →
    readValue fuel (j.chars ++ rest) = (reread j, some rest)
  | .null, fuel, rest, _, enough, _ => by
    obtain ⟨fuel, rfl⟩ := exists_fuel (chars_ne_nil _) enough
    rfl
  | .bool true, fuel, rest, _, enough, _ => by
    obtain ⟨fuel, rfl⟩ := exists_fuel (chars_ne_nil _) enough
    rfl
  | .bool false, fuel, rest, _, enough, _ => by
    obtain ⟨fuel, rfl⟩ := exists_fuel (chars_ne_nil _) enough
    rfl
  | .number (.double d), fuel, rest, _, enough, after => by
    obtain ⟨fuel, rfl⟩ := exists_fuel (chars_ne_nil _) enough
    exact readValue_double d fuel after
  | .number (.int i), fuel, rest, canonical, enough, after => by
    obtain ⟨fuel, rfl⟩ := exists_fuel (chars_ne_nil _) enough
    cases canonical with
    | int inRange => exact readValue_int inRange fuel after
  | .string s, fuel, rest, _, enough, _ => by
    obtain ⟨fuel, rfl⟩ := exists_fuel (chars_ne_nil _) enough
    exact readValue_quote fuel s rest
  | .array [], fuel, rest, _, enough, _ => by
    obtain ⟨fuel, rfl⟩ := exists_fuel (chars_ne_nil _) enough
    rfl
  | .array (j :: items), fuel, rest, canonical, enough, _ => by
    obtain ⟨fuel, rfl⟩ := exists_fuel (chars_ne_nil _) enough
    have h : CanonicalItems (j :: items) := by cases canonical; assumption
    have read := readItems_chars j items fuel rest h
      (by simp [chars] at enough ⊢; omega)
    obtain ⟨c, cs, text, space, bracket⟩ := exists_chars_eq_cons j
    have shape : (Json.array (j :: items)).chars ++ rest =
        '[' :: c :: (cs ++ itemsChars items ++ rest) := by
      simp [chars, text]
    rw [text] at read
    rw [shape, readValue_bracket fuel space bracket]
    simp only [List.cons_append] at read
    rw [read]
    rfl
  | .object [], fuel, rest, _, enough, _ => by
    obtain ⟨fuel, rfl⟩ := exists_fuel (chars_ne_nil _) enough
    rfl
  | .object ((name, j) :: members), fuel, rest, canonical, enough, _ => by
    obtain ⟨fuel, rfl⟩ := exists_fuel (chars_ne_nil _) enough
    have h : CanonicalMembers ((name, j) :: members) := by cases canonical; assumption
    have read := readMembers_chars name j members fuel rest h
      (by simp [chars] at enough ⊢; omega)
    have shape : (Json.object ((name, j) :: members)).chars ++ rest =
        '\x7b' :: (quote name ++ ':' :: j.chars ++ membersChars members ++ rest) := by
      simp [chars]
    rw [shape]
    have brace := readValue_brace fuel
      (name.toList.flatMap escapeChar ++ ['"'] ++ ':' :: j.chars ++ membersChars members ++ rest)
    simp only [quote, List.cons_append] at read ⊢
    rw [brace, read]
    rfl
termination_by _ fuel => fuel

/-- Items and the bracket behind them are read as the items. -/
theorem readItems_chars : ∀ (j : Json) (items : List Json) (fuel : Nat) (rest : List Char),
    CanonicalItems (j :: items) → 2 * (j.chars ++ itemsChars items).length ≤ fuel →
    readItems fuel (j.chars ++ itemsChars items ++ rest) = (rereadItems (j :: items), some rest)
  | j, items, fuel, rest, canonical, enough => by
    obtain ⟨fuel, rfl⟩ := exists_fuel (by simp [chars_ne_nil j]) enough
    cases canonical with
    | cons canonicalItem canonicalItems =>
      have long : 0 < (itemsChars items).length := by cases items <;> simp [itemsChars]
      have item := readValue_chars j fuel (itemsChars items ++ rest) canonicalItem
        (by simp at enough; omega) (follows_itemsChars items rest)
      rw [List.append_assoc, readItems, item]
      match items, canonicalItems, enough with
      | [], _, _ => rfl
      | next :: items, canonicalItems, enough =>
        have others := readItems_chars next items fuel rest canonicalItems
          (by simp [itemsChars] at enough ⊢; omega)
        simp only [itemsChars, List.cons_append, skipSpace_cons (show isSpace ',' = false from rfl)]
        rw [others]
        rfl
termination_by _ _ fuel => fuel

/-- Members and the brace behind them are read as the members. -/
theorem readMembers_chars : ∀ (name : String) (j : Json) (members : List (String × Json))
    (fuel : Nat) (rest : List Char), CanonicalMembers ((name, j) :: members) →
    2 * (quote name ++ ':' :: j.chars ++ membersChars members).length ≤ fuel →
    readMembers fuel (quote name ++ ':' :: j.chars ++ membersChars members ++ rest) =
      (rereadMembers ((name, j) :: members), some rest)
  | name, j, members, fuel, rest, canonical, enough => by
    obtain ⟨fuel, rfl⟩ := exists_fuel (by simp [quote]) enough
    cases canonical with
    | cons canonicalValue canonicalMembers =>
      have value := readValue_chars j fuel (membersChars members ++ rest) canonicalValue
        (by simp at enough; omega) (follows_membersChars members rest)
      have string := readString_quote name (':' :: (j.chars ++ (membersChars members ++ rest)))
      have shape : quote name ++ ':' :: j.chars ++ membersChars members ++ rest =
          '"' :: (name.toList.flatMap escapeChar ++
            '"' :: ':' :: (j.chars ++ (membersChars members ++ rest))) := by
        simp [quote]
      rw [shape, readMembers]
      simp only [skipSpace_cons (show isSpace '"' = false from rfl), string,
        skipSpace_cons (show isSpace ':' = false from rfl), value]
      match members, canonicalMembers, enough with
      | [], _, _ => rfl
      | (next, k) :: members, canonicalMembers, enough =>
        have others := readMembers_chars next k members fuel rest canonicalMembers
          (by simp [membersChars] at enough ⊢; omega)
        have tail : membersChars ((next, k) :: members) ++ rest =
            ',' :: (quote next ++ ':' :: k.chars ++ membersChars members ++ rest) := by
          simp [membersChars]
        simp only [tail, skipSpace_cons (show isSpace ',' = false from rfl), others]
        rfl
termination_by _ _ _ fuel => fuel

end

end Written

/-! ## Members in order -/

/-- A member whose name comes last is put last. -/
theorem putMember_of_last {name : String} {value : Json} {members : List (String × Json)}
    (last : ∀ m ∈ members, m.1 < name) :
    putMember name value members = members ++ [(name, value)] := by
  induction members with
  | nil => rfl
  | cons m rest ih =>
    obtain ⟨n, v⟩ := m
    have before : n < name := last (n, v) List.mem_cons_self
    have notBefore : ¬name < n := fun after => String.lt_irrefl _ (String.lt_trans before after)
    have different : name ≠ n := fun same => String.lt_irrefl _ (same ▸ before)
    rw [putMember, if_neg notBefore, if_neg different,
      ih fun m hm => last m (List.mem_cons_of_mem _ hm)]
    rfl

/-- Members in the order of their names make the object of these members. -/
theorem ofMembers_of_sorted {members : List (String × Json)}
    (sorted : members.Pairwise fun a b => a.1 < b.1) : ofMembers members = .object members := by
  suffices keeps : ∀ front : List (String × Json),
      (front ++ members).Pairwise (fun a b => a.1 < b.1) →
      members.foldl (fun sorted m => putMember m.1 m.2 sorted) front = front ++ members by
    rw [ofMembers, keeps [] sorted]
    rfl
  clear sorted
  induction members with
  | nil => exact fun front _ => (List.append_nil front).symm
  | cons m rest ih =>
    intro front sorted
    have last : ∀ x ∈ front, x.1 < m.1 := fun x hx =>
      (List.pairwise_append.1 sorted).2.2 x hx m List.mem_cons_self
    rw [List.foldl_cons, putMember_of_last last, ih _ (by simpa using sorted),
      List.append_assoc]
    rfl

namespace Decoder

mutual

/-- A value in canonical form is decoded from itself. -/
theorem json_ofJson : ∀ j : Json, Canonical j → json (Written.ofJson j) = .ok j
  | .null, _ => rfl
  | .bool _, _ => rfl
  | .number _, _ => rfl
  | .string _, _ => rfl
  | .array items, canonical => by
    cases canonical with
    | array h =>
      rw [Written.ofJson, json, jsonItems_ofItems items h]
      rfl
  | .object members, canonical => by
    cases canonical with
    | object sorted h =>
      rw [Written.ofJson, json, jsonMembers_ofMembers members h, Except.map,
        ofMembers_of_sorted sorted]

theorem jsonItems_ofItems : ∀ items : List Json, CanonicalItems items →
    jsonItems (Written.ofItems items) = .ok items
  | [], _ => rfl
  | j :: rest, canonical => by
    cases canonical with
    | cons h hs =>
      rw [Written.ofItems, jsonItems, json_ofJson j h, jsonItems_ofItems rest hs]
      rfl

theorem jsonMembers_ofMembers : ∀ members : List (String × Json), CanonicalMembers members →
    jsonMembers (Written.ofMembers members) = .ok members
  | [], _ => rfl
  | (name, j) :: rest, canonical => by
    cases canonical with
    | cons h hs =>
      rw [Written.ofMembers, jsonMembers, json_ofJson j h, jsonMembers_ofMembers rest hs]
      rfl

end

end Decoder

/-! ## Whole texts -/

/-- A value without floating-point numbers, in canonical form and not nested too deeply. -/
structure Portable (j : Json) : Prop where
  canonical : Canonical j
  integral : j.noDouble = true
  shallow : j.depth ≤ Written.maxDepth

/-- An object is portable if the values of its members are, and are not nested as deeply as is
allowed. -/
theorem portable_ofMembers {members : List (String × Json)}
    (h : ∀ m ∈ members, m.2.Portable ∧ m.2.depth < Written.maxDepth) :
    (ofMembers members).Portable where
  canonical := canonical_ofMembers (canonicalMembers_iff.2 fun m mem => (h m mem).1.canonical)
  integral := noDouble_ofMembers (noDoubleMembers_iff.2 fun m mem => (h m mem).1.integral)
  shallow := by
    have flat : depthMembers members ≤ Written.maxDepth - 1 :=
      depthMembers_le_iff.2 fun m mem => Nat.le_pred_of_lt (h m mem).2
    have nested := depth_ofMembers_le members
    have room : 0 < Written.maxDepth := by decide
    omega

/-- A text holds what is left of its value when the depth is bounded. -/
theorem ofChars_text {j : Json} (canonical : Canonical j) :
    Written.ofChars j.text.toList = ((Written.reread j).bounded Written.maxDepth, true) := by
  have value := Written.readValue_chars j (2 * j.chars.length + 2) [] canonical (by omega)
    Written.follows_nil
  rw [List.append_nil] at value
  rw [Written.ofChars, text, String.toList_ofList, value]
  rfl

/-- The text of a value reads back as the value. -/
theorem read?_text {j : Json} (h : Portable j) : read? j.text = .ok j := by
  have kept : (Written.reread j).bounded Written.maxDepth = Written.ofJson j := by
    rw [Written.bounded_of_depth_le _ _ (by rw [Written.depth_reread]; exact h.shallow),
      Written.reread_of_noDouble j h.integral]
  rw [read?, Decoder.decodeText, ofChars_text h.canonical, kept]
  simp only [Decoder.json_ofJson j h.canonical]
  rfl

/-- The text of a value that is nested too deeply is refused. -/
theorem read?_text_of_deep {j : Json} (canonical : Canonical j)
    (deep : Written.maxDepth < j.depth) : ∃ fault, read? j.text = .error fault := by
  rw [read?, Decoder.decodeText, ofChars_text canonical]
  cases found : Decoder.json ((Written.reread j).bounded Written.maxDepth) with
  | error fault => exact ⟨fault, by simp [found, Except.bind]⟩
  | ok value =>
    have shallow := Written.depth_le_of_json_bounded _ _ value found
    rw [Written.depth_reread] at shallow
    exact absurd shallow (Nat.not_le.2 deep)

end Turnstile.Json
