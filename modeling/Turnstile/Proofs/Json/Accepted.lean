import Turnstile.Proofs.Json.Grammar

/-!
Reading follows the grammar. Main statement: a text is read as a value exactly if it is a document
of the value (`read?_eq_ok_iff`). What is read is spelled (`Written.spells_of_readValue`), by one
step of the reader at a time (`Written.Step`), and what is spelled is read given fuel for twice its
length (`Written.readValue_of_spells`). So the grammar is not ambiguous (`Document.unique`).
-/

namespace Turnstile.Json

namespace Written

variable {fuel depth : Nat} {cs rest before : List Char} {w : Written}

/-! ## Blanks -/

theorem exists_blanks (cs : List Char) : ∃ before, Blanks before ∧ cs = before ++ skipSpace cs :=
  ⟨cs.takeWhile isSpace, List.all_eq_true.1 List.all_takeWhile,
    List.takeWhile_append_dropWhile.symm⟩

theorem skipSpace_append (h : Blanks before) (cs : List Char) :
    skipSpace (before ++ cs) = skipSpace cs :=
  List.dropWhile_append_of_pos h

theorem skipSpace_eq_nil_iff : skipSpace cs = [] ↔ Blanks cs := by
  constructor
  · intro none
    obtain ⟨before, blank, front⟩ := exists_blanks cs
    rw [none, List.append_nil] at front
    rwa [front]
  · intro blank
    rw [← List.append_nil cs, skipSpace_append blank]
    rfl

/-! ## What is read is spelled -/

/-- What the reader does with a value, which starts with the first character of a text. -/
inductive Step (fuel : Nat) : List Char → Written → List Char → Prop
  | null {rest : List Char} : Step fuel ('n' :: 'u' :: 'l' :: 'l' :: rest) .null rest
  | yes {rest : List Char} : Step fuel ('t' :: 'r' :: 'u' :: 'e' :: rest) (.bool true) rest
  | no {rest : List Char} : Step fuel ('f' :: 'a' :: 'l' :: 's' :: 'e' :: rest) (.bool false) rest
  | string {cs rest : List Char} {s : String} (h : readString cs = some (some s, rest)) :
      Step fuel ('"' :: cs) (.string s) rest
  | unfit {cs rest : List Char} : Step fuel cs .unfit rest
  | number {negative : Bool} {cs rest : List Char} {n : Numeral}
      (h : readNumeral? negative cs = some (n, rest)) :
      Step fuel (signChars negative ++ cs) (ofNumeral n) rest
  | emptyArray {cs rest : List Char} (h : skipSpace cs = ']' :: rest) :
      Step fuel ('[' :: cs) (.array []) rest
  | array {cs rest : List Char} {items : List Written}
      (h : readItems fuel cs = (items, some rest)) :
      Step fuel ('[' :: cs) (.array items) rest
  | emptyObject {cs rest : List Char} (h : skipSpace cs = '\x7d' :: rest) :
      Step fuel ('\x7b' :: cs) (.object []) rest
  | object {cs rest : List Char} {members : List (Option String × Written)}
      (h : readMembers fuel cs = (members, some rest)) :
      Step fuel ('\x7b' :: cs) (.object members) rest

theorem eq_of_dropWord? {word : List Char} (h : dropWord? word cs = some rest) :
    cs = word ++ rest := by
  induction word generalizing cs with
  | nil =>
    cases h
    rfl
  | cons c word ih =>
    cases cs with
    | nil => cases h
    | cons c' cs =>
      unfold dropWord? at h
      split at h
      · rename_i same
        rw [← same, ih h]
        rfl
      · cases h

theorem eq_of_readWord {word : List Char} {value : Written}
    (h : readWord word value cs = (w, some rest)) : w = value ∧ cs = word ++ rest := by
  unfold readWord at h
  split at h
  · rename_i dropped
    cases h
    exact ⟨rfl, eq_of_dropWord? dropped⟩
  · cases h

theorem exists_of_readNumber {negative : Bool} (h : readNumber negative cs = (w, some rest)) :
    ∃ n, readNumeral? negative cs = some (n, rest) ∧ w = ofNumeral n := by
  unfold readNumber at h
  split at h
  · rename_i read
    cases h
    exact ⟨_, read, rfl⟩
  · cases h

theorem step_of_readValue (h : readValue (fuel + 1) cs = (w, some rest)) :
    Step fuel (skipSpace cs) w rest := by
  unfold readValue at h
  generalize skipSpace cs = text at h ⊢
  cases text with
  | nil => cases h
  | cons c tail =>
    dsimp only at h
    split at h
    · subst c
      obtain ⟨rfl, rfl⟩ := eq_of_readWord h
      exact .null
    split at h
    · subst c
      obtain ⟨rfl, rfl⟩ := eq_of_readWord h
      exact .yes
    split at h
    · subst c
      obtain ⟨rfl, rfl⟩ := eq_of_readWord h
      exact .no
    split at h
    · subst c
      split at h
      · rename_i read
        cases h
        exact .string read
      · cases h
        exact .unfit
      · cases h
    split at h
    · subst c
      obtain ⟨n, read, rfl⟩ := exists_of_readNumber h
      exact .number read
    split at h
    · obtain ⟨n, read, rfl⟩ := exists_of_readNumber h
      exact .number read
    split at h
    · subst c
      split at h
      · rename_i closing
        cases h
        exact .emptyArray closing
      · obtain ⟨rfl, closed⟩ := Prod.mk.inj h
        exact .array (Prod.ext rfl closed)
    split at h
    · subst c
      split at h
      · rename_i closing
        cases h
        exact .emptyObject closing
      · obtain ⟨rfl, closed⟩ := Prod.mk.inj h
        exact .object (Prod.ext rfl closed)
    · cases h

/-- What the reader does with the items of an array. -/
theorem cases_of_readItems {items : List Written}
    (h : readItems (fuel + 1) cs = (items, some rest)) :
    ∃ item tail, readValue fuel cs = (item, some tail) ∧
      (skipSpace tail = ']' :: rest ∧ items = [item] ∨
        ∃ next others, skipSpace tail = ',' :: next ∧ readItems fuel next = (others, some rest) ∧
          items = item :: others) := by
  unfold readItems at h
  split at h
  · cases h
  · rename_i item tail read
    refine ⟨item, tail, read, ?_⟩
    split at h
    · rename_i next comma
      obtain ⟨rfl, closed⟩ := Prod.mk.inj h
      exact .inr ⟨next, _, comma, Prod.ext rfl closed, rfl⟩
    · rename_i closing
      cases h
      exact .inl ⟨closing, rfl⟩
    · cases h

/-- What the reader does with the members of an object. -/
theorem cases_of_readMembers {members : List (Option String × Written)}
    (h : readMembers (fuel + 1) cs = (members, some rest)) :
    ∃ named name colon behind value tail, skipSpace cs = '"' :: named ∧
      readString named = some (name, colon) ∧ skipSpace colon = ':' :: behind ∧
      readValue fuel behind = (value, some tail) ∧
      (skipSpace tail = '\x7d' :: rest ∧ members = [(name, value)] ∨
        ∃ next others, skipSpace tail = ',' :: next ∧ readMembers fuel next = (others, some rest) ∧
          members = (name, value) :: others) := by
  unfold readMembers at h
  split at h
  · rename_i named quote
    split at h
    · cases h
    · rename_i name colon read
      split at h
      · rename_i behind mark
        split at h
        · cases h
        · rename_i value tail inner
          refine ⟨named, name, colon, behind, value, tail, quote, read, mark, inner, ?_⟩
          split at h
          · rename_i next comma
            obtain ⟨rfl, closed⟩ := Prod.mk.inj h
            exact .inr ⟨next, _, comma, Prod.ext rfl closed, rfl⟩
          · rename_i closing
            cases h
            exact .inl ⟨closing, rfl⟩
          · cases h
      · cases h
  · cases h

theorem json_bounded_of_flat (flat : w.depth = 0) (depth : Nat) :
    Decoder.json (bounded depth w) = Decoder.json w :=
  congrArg Decoder.json (bounded_of_depth_le w depth (by omega))

/-- An array that has a meaning after it was cut was not cut itself. -/
theorem exists_of_json_array {items : List Written} {j : Json}
    (h : Decoder.json (bounded depth (.array items)) = .ok j) :
    ∃ below js, depth = below + 1 ∧ Decoder.jsonItems (boundedItems below items) = .ok js ∧
      j = .array js := by
  cases depth with
  | zero =>
    rw [bounded] at h
    split at h <;> cases h
  | succ below =>
    rw [bounded, Decoder.json, map_eq_ok_iff] at h
    obtain ⟨js, inner, rfl⟩ := h
    exact ⟨below, js, rfl, inner, rfl⟩

theorem exists_of_json_object {members : List (Option String × Written)} {j : Json}
    (h : Decoder.json (bounded depth (.object members)) = .ok j) :
    ∃ below js, depth = below + 1 ∧ Decoder.jsonMembers (boundedMembers below members) = .ok js ∧
      j = .ofMembers js := by
  cases depth with
  | zero =>
    rw [bounded] at h
    split at h <;> cases h
  | succ below =>
    rw [bounded, Decoder.json, map_eq_ok_iff] at h
    obtain ⟨js, inner, rfl⟩ := h
    exact ⟨below, js, rfl, inner, rfl⟩

mutual

/-- A value that is read is spelled, behind blanks. -/
theorem spells_of_readValue : ∀ (fuel depth : Nat) {cs rest : List Char} {w : Written} {j : Json},
    readValue fuel cs = (w, some rest) → Decoder.json (bounded depth w) = .ok j →
    ∃ before text, Blanks before ∧ cs = before ++ (text ++ rest) ∧ Spells depth text j
  | 0, _, _, _, _, _, read, _ => by cases read
  | fuel + 1, depth, cs, rest, w, j, read, meaning => by
    obtain ⟨before, blank, front⟩ := exists_blanks cs
    have step := step_of_readValue read
    generalize skipSpace cs = tail at front step
    subst front
    -- the blanks in front are set aside, what is left starts with the value
    suffices spelled : ∃ text, tail = text ++ rest ∧ Spells depth text j by
      obtain ⟨text, rfl, h⟩ := spelled
      exact ⟨before, text, blank, rfl, h⟩
    cases step with
    | null =>
      rw [json_bounded_of_flat rfl] at meaning
      cases meaning
      exact ⟨_, rfl, .null⟩
    | yes =>
      rw [json_bounded_of_flat rfl] at meaning
      cases meaning
      exact ⟨_, rfl, .yes⟩
    | no =>
      rw [json_bounded_of_flat rfl] at meaning
      cases meaning
      exact ⟨_, rfl, .no⟩
    | unfit =>
      rw [json_bounded_of_flat rfl] at meaning
      cases meaning
    | string h =>
      obtain ⟨text, spelled, rfl⟩ := readString_eq_some_iff.1 h
      rw [json_bounded_of_flat rfl] at meaning
      cases meaning
      exact ⟨'"' :: (text ++ ['"']), by simp, .string spelled⟩
    | number h =>
      rename_i negative cs n
      obtain ⟨rfl, text, numeral, rfl⟩ := numeralText_of_readNumeral? h
      unfold ofNumeral at meaning
      split at meaning
      · rename_i v value
        rw [json_bounded_of_flat rfl] at meaning
        cases meaning
        exact ⟨signChars n.negative ++ text, by simp, .number numeral value⟩
      · rw [json_bounded_of_flat rfl] at meaning
        cases meaning
    | emptyArray h =>
      rename_i cs
      obtain ⟨blanks, blank, front⟩ := exists_blanks cs
      obtain ⟨below, js, rfl, inner, rfl⟩ := exists_of_json_array meaning
      cases inner
      exact ⟨'[' :: (blanks ++ [']']), by rw [front, h]; simp, .emptyArray blank⟩
    | array h =>
      obtain ⟨below, js, rfl, inner, rfl⟩ := exists_of_json_array meaning
      obtain ⟨text, rfl, items⟩ := spells_of_readItems fuel below h inner
      exact ⟨'[' :: (text ++ [']']), by simp, .array items⟩
    | emptyObject h =>
      rename_i cs
      obtain ⟨blanks, blank, front⟩ := exists_blanks cs
      obtain ⟨below, js, rfl, inner, rfl⟩ := exists_of_json_object meaning
      cases inner
      exact ⟨'\x7b' :: (blanks ++ ['\x7d']), by rw [front, h]; simp, .emptyObject blank⟩
    | object h =>
      obtain ⟨below, js, rfl, inner, rfl⟩ := exists_of_json_object meaning
      obtain ⟨text, rfl, members⟩ := spells_of_readMembers fuel below h inner
      exact ⟨'\x7b' :: (text ++ ['\x7d']), by simp, .object members⟩
termination_by fuel => fuel

theorem spells_of_readItems : ∀ (fuel depth : Nat) {cs rest : List Char} {items : List Written}
    {js : List Json}, readItems fuel cs = (items, some rest) →
    Decoder.jsonItems (boundedItems depth items) = .ok js →
    ∃ text, cs = text ++ ']' :: rest ∧ SpellsItems depth text js
  | 0, _, _, _, _, _, read, _ => by cases read
  | fuel + 1, depth, cs, rest, items, js, read, meaning => by
    obtain ⟨item, tail, value, closing | more⟩ := cases_of_readItems read
    · obtain ⟨closing, rfl⟩ := closing
      obtain ⟨j, others, first, none, rfl⟩ := bind_map_eq_ok_iff.1 meaning
      cases none
      obtain ⟨before, text, blank, rfl, spelled⟩ := spells_of_readValue fuel depth value first
      obtain ⟨after, back, behind⟩ := exists_blanks tail
      exact ⟨_, by rw [behind, closing]; simp, .last blank spelled back⟩
    · obtain ⟨next, others, comma, inner, rfl⟩ := more
      obtain ⟨j, js, first, second, rfl⟩ := bind_map_eq_ok_iff.1 meaning
      obtain ⟨before, text, blank, rfl, spelled⟩ := spells_of_readValue fuel depth value first
      obtain ⟨after, back, behind⟩ := exists_blanks tail
      obtain ⟨following, rfl, items⟩ := spells_of_readItems fuel depth inner second
      exact ⟨_, by rw [behind, comma]; simp, .more blank spelled back items⟩
termination_by fuel => fuel

theorem spells_of_readMembers : ∀ (fuel depth : Nat) {cs rest : List Char}
    {members : List (Option String × Written)} {js : List (String × Json)},
    readMembers fuel cs = (members, some rest) →
    Decoder.jsonMembers (boundedMembers depth members) = .ok js →
    ∃ text, cs = text ++ '\x7d' :: rest ∧ SpellsMembers depth text js
  | 0, _, _, _, _, _, read, _ => by cases read
  | fuel + 1, depth, cs, rest, members, js, read, meaning => by
    obtain ⟨named, name, colon, behind, value, tail, quote, string, mark, inside, ends⟩ :=
      cases_of_readMembers read
    obtain ⟨start, first, front⟩ := exists_blanks cs
    obtain ⟨gap, second, middle⟩ := exists_blanks colon
    obtain ⟨after, back, last⟩ := exists_blanks tail
    rw [quote] at front
    rw [mark] at middle
    cases name with
    -- no value makes up for a name that is not readable
    | none => rcases ends with ⟨_, rfl⟩ | ⟨next, others, _, _, rfl⟩ <;> cases meaning
    | some name =>
      obtain ⟨nameText, spelling, rfl⟩ := readString_eq_some_iff.1 string
      rcases ends with ⟨closing, rfl⟩ | ⟨next, others, comma, inner, rfl⟩
      · obtain ⟨j, others, value, none, rfl⟩ := bind_map_eq_ok_iff.1 meaning
        cases none
        obtain ⟨before, text, blank, rfl, spelled⟩ := spells_of_readValue fuel depth inside value
        rw [closing] at last
        exact ⟨_, by rw [front, middle, last]; simp,
          .last first spelling second blank spelled back⟩
      · obtain ⟨j, js, value, more, rfl⟩ := bind_map_eq_ok_iff.1 meaning
        obtain ⟨before, text, blank, rfl, spelled⟩ := spells_of_readValue fuel depth inside value
        obtain ⟨following, rfl, members⟩ := spells_of_readMembers fuel depth inner more
        rw [comma] at last
        exact ⟨_, by rw [front, middle, last]; simp,
          .more first spelling second blank spelled back members⟩
termination_by fuel => fuel

end

/-! ## What is spelled is read -/

theorem readValue_blanks (h : Blanks before) (fuel : Nat) (cs : List Char) :
    readValue fuel (before ++ cs) = readValue fuel cs := by
  cases fuel with
  | zero => rfl
  | succ fuel => simp only [readValue, skipSpace_append h]

theorem readMembers_blanks (h : Blanks before) (fuel : Nat) (cs : List Char) :
    readMembers fuel (before ++ cs) = readMembers fuel cs := by
  cases fuel with
  | zero => rfl
  | succ fuel => simp only [readMembers, skipSpace_append h]

theorem ends_of_cons {c : Char} (h : c = ',' ∨ c = ']' ∨ c = '\x7d') (cs : List Char) :
    Ends (c :: cs) := by
  rintro d ⟨⟩
  exact .inr h

/-- Blanks, and what may follow a value behind them, may follow a value. -/
theorem Ends.append (h : Blanks before) (after : Ends rest) : Ends (before ++ rest) := by
  cases before with
  | nil => exact after
  | cons c cs =>
    rintro d ⟨⟩
    exact .inl (h c List.mem_cons_self)

theorem exists_digit_of_numeralText {n : Numeral} {text : List Char} (h : NumeralText n text) :
    ∃ c cs, text = c :: cs ∧ Text.isDigit c = true := by
  cases h with
  | mk nonempty _ all =>
    obtain ⟨c, cs, rfl⟩ := List.exists_cons_of_ne_nil nonempty
    exact ⟨c, _, rfl, all c List.mem_cons_self⟩

/-- A text of a value starts neither with a blank nor with a bracket that closes. -/
theorem exists_cons_of_spells {text : List Char} {j : Json} (h : Spells depth text j) :
    ∃ c cs, text = c :: cs ∧ isSpace c = false ∧ c ≠ ']' := by
  cases h with
  | number h =>
    rename_i n v text value
    cases negative : n.negative with
    | true => exact ⟨'-', text, rfl, rfl, by decide⟩
    | false =>
      obtain ⟨c, cs, rfl, digit⟩ := exists_digit_of_numeralText h
      exact ⟨c, cs, rfl, isSpace_of_isDigit digit, Text.ne_of_isDigit digit rfl⟩
  | _ => exact ⟨_, _, rfl, rfl, by decide⟩

theorem readNumber_of_numeralText {n : Numeral} {text : List Char} (h : NumeralText n text)
    (after : Ends rest) : readNumber n.negative (text ++ rest) = (ofNumeral n, some rest) := by
  rw [readNumber, readNumeral?_of_numeralText h after]

theorem readValue_numeral {n : Numeral} {text : List Char} (h : NumeralText n text) (fuel : Nat)
    (after : Ends rest) :
    readValue (fuel + 1) (signChars n.negative ++ (text ++ rest)) = (ofNumeral n, some rest) := by
  have read := readNumber_of_numeralText h after
  cases negative : n.negative with
  | true =>
    rw [negative] at read
    exact (readValue_minus fuel _).trans read
  | false =>
    rw [negative] at read
    obtain ⟨c, cs, rfl, digit⟩ := exists_digit_of_numeralText h
    exact (readValue_digit digit _).trans read

theorem readValue_string {text : List Char} {s : String} (h : StringText text s) (fuel : Nat) :
    readValue (fuel + 1) ('"' :: (text ++ '"' :: rest)) = (.string s, some rest) := by
  have read : readString (text ++ '"' :: rest) = some (some s, rest) :=
    readString_eq_some_iff.2 ⟨text, h, rfl⟩
  simp [readValue, skipSpace_cons (show isSpace '"' = false from rfl), read]

theorem readValue_emptyArray (fuel : Nat) (h : skipSpace cs = ']' :: rest) :
    readValue (fuel + 1) ('[' :: cs) = (.array [], some rest) := by
  simp [readValue, skipSpace_cons (show isSpace '[' = false from rfl), h,
    show Text.isDigit '[' = false from rfl]

theorem readValue_array {items : List Written} (h : ∀ tail, skipSpace cs ≠ ']' :: tail)
    (read : readItems fuel cs = (items, some rest)) :
    readValue (fuel + 1) ('[' :: cs) = (.array items, some rest) := by
  simp only [readValue, skipSpace_cons (show isSpace '[' = false from rfl), Char.reduceEq,
    show Text.isDigit '[' = false from rfl, if_false, Bool.false_eq_true, if_true]
  rw [read]

theorem readValue_emptyObject (fuel : Nat) (h : skipSpace cs = '\x7d' :: rest) :
    readValue (fuel + 1) ('\x7b' :: cs) = (.object [], some rest) := by
  simp [readValue, skipSpace_cons (show isSpace '\x7b' = false from rfl), h,
    show Text.isDigit '\x7b' = false from rfl]

theorem readValue_object {members : List (Option String × Written)}
    (h : ∀ tail, skipSpace cs ≠ '\x7d' :: tail)
    (read : readMembers fuel cs = (members, some rest)) :
    readValue (fuel + 1) ('\x7b' :: cs) = (.object members, some rest) := by
  simp only [readValue, skipSpace_cons (show isSpace '\x7b' = false from rfl), Char.reduceEq,
    show Text.isDigit '\x7b' = false from rfl, if_false, Bool.false_eq_true, if_true]
  rw [read]

section items

variable {item : Written} {tail next : List Char} {items : List Written}

theorem readItems_last (value : readValue fuel cs = (item, some tail))
    (closing : skipSpace tail = ']' :: rest) : readItems (fuel + 1) cs = ([item], some rest) := by
  simp only [readItems, value, closing]

theorem readItems_more (value : readValue fuel cs = (item, some tail))
    (comma : skipSpace tail = ',' :: next) (others : readItems fuel next = (items, some rest)) :
    readItems (fuel + 1) cs = (item :: items, some rest) := by
  simp only [readItems, value, comma, others]

end items

section members

variable {name : String} {nameText colon behind tail next : List Char} {value : Written}
  {members : List (Option String × Written)}

theorem readMembers_last (named : StringText nameText name)
    (mark : skipSpace colon = ':' :: behind) (inside : readValue fuel behind = (value, some tail))
    (closing : skipSpace tail = '\x7d' :: rest) :
    readMembers (fuel + 1) ('"' :: (nameText ++ '"' :: colon)) =
      ([(some name, value)], some rest) := by
  have string : readString (nameText ++ '"' :: colon) = some (some name, colon) :=
    readString_eq_some_iff.2 ⟨nameText, named, rfl⟩
  simp only [readMembers, skipSpace_cons (show isSpace '"' = false from rfl), string, mark, inside,
    closing]

theorem readMembers_more (named : StringText nameText name)
    (mark : skipSpace colon = ':' :: behind) (inside : readValue fuel behind = (value, some tail))
    (comma : skipSpace tail = ',' :: next)
    (others : readMembers fuel next = (members, some rest)) :
    readMembers (fuel + 1) ('"' :: (nameText ++ '"' :: colon)) =
      ((some name, value) :: members, some rest) := by
  have string : readString (nameText ++ '"' :: colon) = some (some name, colon) :=
    readString_eq_some_iff.2 ⟨nameText, named, rfl⟩
  simp only [readMembers, skipSpace_cons (show isSpace '"' = false from rfl), string, mark, inside,
    comma, others]

end members

/-- What stands behind blanks is what is left when they are dropped. -/
theorem skipSpace_blanks {c : Char} (h : Blanks before) (started : isSpace c = false)
    (cs : List Char) : skipSpace (before ++ c :: cs) = c :: cs := by
  rw [skipSpace_append h, skipSpace_cons started]

theorem skipSpace_items_ne {text : List Char} {js : List Json} (h : SpellsItems depth text js)
    (rest tail : List Char) : skipSpace (text ++ rest) ≠ ']' :: tail := by
  have started : ∀ {before word after : List Char} {j : Json}, Blanks before →
      Spells depth word j → skipSpace (before ++ (word ++ after)) ≠ ']' :: tail := by
    intro before word after j front spelled closing
    obtain ⟨c, cs, rfl, space, bracket⟩ := exists_cons_of_spells spelled
    rw [List.cons_append, skipSpace_blanks front space] at closing
    exact bracket (List.cons.inj closing).1
  cases h with
  | last front spelled _ =>
    rw [List.append_assoc, List.append_assoc]
    exact started front spelled
  | more front spelled _ _ =>
    rw [List.append_assoc, List.append_assoc]
    exact started front spelled

theorem skipSpace_members_ne {text : List Char} {ms : List (String × Json)}
    (h : SpellsMembers depth text ms) (rest tail : List Char) :
    skipSpace (text ++ rest) ≠ '\x7d' :: tail := by
  have started : ∀ {start after : List Char}, Blanks start →
      skipSpace (start ++ '"' :: after) ≠ '\x7d' :: tail := by
    intro start after first closing
    rw [skipSpace_blanks first rfl] at closing
    exact absurd (List.cons.inj closing).1 (by decide)
  cases h with
  | last first =>
    rw [List.append_assoc, List.cons_append]
    exact started first
  | more first =>
    rw [List.append_assoc, List.cons_append]
    exact started first

/-! The induction is on the derivation. A call to the reader of items or members and a call from
there to the reader of values take one unit of fuel each, and between them stands a bracket, a brace
or a comma, so twice the length of a text is enough. -/

mutual

/-- A text of a value is read as the value, given fuel for twice its length. -/
theorem readValue_of_spells : ∀ {depth : Nat} {text : List Char} {j : Json},
    Spells depth text j → ∀ (fuel : Nat) (rest : List Char), 2 * text.length ≤ fuel → Ends rest →
    ∃ w, readValue fuel (text ++ rest) = (w, some rest) ∧ Decoder.json (bounded depth w) = .ok j
  | depth, _, _, .null, fuel, rest, enough, _ => by
    obtain ⟨fuel, rfl⟩ := exists_fuel (List.cons_ne_nil _ _) enough
    exact ⟨.null, rfl, json_bounded_of_flat rfl depth⟩
  | depth, _, _, .yes, fuel, rest, enough, _ => by
    obtain ⟨fuel, rfl⟩ := exists_fuel (List.cons_ne_nil _ _) enough
    exact ⟨.bool true, rfl, json_bounded_of_flat rfl depth⟩
  | depth, _, _, .no, fuel, rest, enough, _ => by
    obtain ⟨fuel, rfl⟩ := exists_fuel (List.cons_ne_nil _ _) enough
    exact ⟨.bool false, rfl, json_bounded_of_flat rfl depth⟩
  | depth, _, _, @Spells.number _ n v text h value, fuel, rest, enough, after => by
    obtain ⟨c, cs, started, -⟩ := exists_digit_of_numeralText h
    obtain ⟨fuel, rfl⟩ := exists_fuel (by simp [started]) enough
    refine ⟨.number v, ?_, json_bounded_of_flat rfl depth⟩
    rw [List.append_assoc, readValue_numeral h fuel after, ofNumeral, value]
  | depth, _, _, @Spells.string _ text s h, fuel, rest, enough, _ => by
    obtain ⟨fuel, rfl⟩ := exists_fuel (List.cons_ne_nil _ _) enough
    refine ⟨.string s, ?_, json_bounded_of_flat rfl depth⟩
    rw [List.cons_append, List.append_assoc, List.singleton_append, readValue_string h]
  | _, _, _, .emptyArray h, fuel, rest, enough, _ => by
    obtain ⟨fuel, rfl⟩ := exists_fuel (List.cons_ne_nil _ _) enough
    refine ⟨.array [], ?_, rfl⟩
    rw [List.cons_append, List.append_assoc]
    exact readValue_emptyArray fuel (skipSpace_blanks h rfl rest)
  | _, _, _, .array h, fuel, rest, enough, _ => by
    obtain ⟨fuel, rfl⟩ := exists_fuel (List.cons_ne_nil _ _) enough
    simp only [List.length_cons, List.length_append, List.length_nil] at enough
    obtain ⟨items, read, meaning⟩ := readItems_of_spells h fuel rest (by omega)
    refine ⟨.array items, ?_, ?_⟩
    · rw [List.cons_append, List.append_assoc]
      exact readValue_array (skipSpace_items_ne h _) read
    · rw [bounded, Decoder.json, meaning]
      rfl
  | _, _, _, .emptyObject h, fuel, rest, enough, _ => by
    obtain ⟨fuel, rfl⟩ := exists_fuel (List.cons_ne_nil _ _) enough
    refine ⟨.object [], ?_, rfl⟩
    rw [List.cons_append, List.append_assoc]
    exact readValue_emptyObject fuel (skipSpace_blanks h rfl rest)
  | _, _, _, .object h, fuel, rest, enough, _ => by
    obtain ⟨fuel, rfl⟩ := exists_fuel (List.cons_ne_nil _ _) enough
    simp only [List.length_cons, List.length_append, List.length_nil] at enough
    obtain ⟨members, read, meaning⟩ := readMembers_of_spells h fuel rest (by omega)
    refine ⟨.object members, ?_, ?_⟩
    · rw [List.cons_append, List.append_assoc]
      exact readValue_object (skipSpace_members_ne h _) read
    · rw [bounded, Decoder.json, meaning]
      rfl

/-- The text of items is read up to the bracket behind it. -/
theorem readItems_of_spells : ∀ {depth : Nat} {text : List Char} {js : List Json},
    SpellsItems depth text js → ∀ (fuel : Nat) (rest : List Char), 2 * text.length < fuel →
    ∃ items, readItems fuel (text ++ ']' :: rest) = (items, some rest) ∧
      Decoder.jsonItems (boundedItems depth items) = .ok js
  | depth, _, _, @SpellsItems.last _ before text after j front h back, fuel, rest, enough => by
    obtain ⟨fuel, rfl⟩ : ∃ k, fuel = k + 1 := ⟨fuel - 1, by omega⟩
    simp only [List.length_append] at enough
    obtain ⟨w, read, meaning⟩ := readValue_of_spells h fuel (after ++ ']' :: rest)
      (by omega) (Ends.append back (ends_of_cons (by simp) rest))
    refine ⟨[w], ?_, bind_map_eq_ok_iff.2 ⟨j, [], meaning, rfl, rfl⟩⟩
    rw [List.append_assoc, List.append_assoc]
    exact readItems_last ((readValue_blanks front fuel _).trans read) (skipSpace_blanks back rfl _)
  | depth, _, _, @SpellsItems.more _ before text after next j js front h back others, fuel, rest,
      enough => by
    obtain ⟨fuel, rfl⟩ : ∃ k, fuel = k + 1 := ⟨fuel - 1, by omega⟩
    simp only [List.length_append, List.length_cons] at enough
    obtain ⟨w, read, meaning⟩ := readValue_of_spells h fuel
      (after ++ ',' :: (next ++ ']' :: rest)) (by omega)
      (Ends.append back (ends_of_cons (by simp) _))
    obtain ⟨items, more, meanings⟩ := readItems_of_spells others fuel rest (by omega)
    refine ⟨w :: items, ?_, bind_map_eq_ok_iff.2 ⟨j, js, meaning, meanings, rfl⟩⟩
    simp only [List.append_assoc, List.cons_append]
    exact readItems_more ((readValue_blanks front fuel _).trans read) (skipSpace_blanks back rfl _)
      more

/-- The text of members is read up to the brace behind it. -/
theorem readMembers_of_spells : ∀ {depth : Nat} {text : List Char} {ms : List (String × Json)},
    SpellsMembers depth text ms → ∀ (fuel : Nat) (rest : List Char), 2 * text.length < fuel →
    ∃ members, readMembers fuel (text ++ '\x7d' :: rest) = (members, some rest) ∧
      Decoder.jsonMembers (boundedMembers depth members) = .ok ms
  | depth, _, _, @SpellsMembers.last _ start name colon before text after s j first named second
      front h back, fuel, rest, enough => by
    obtain ⟨fuel, rfl⟩ : ∃ k, fuel = k + 1 := ⟨fuel - 1, by omega⟩
    simp only [List.length_append, List.length_cons] at enough
    obtain ⟨w, read, meaning⟩ := readValue_of_spells h fuel (after ++ '\x7d' :: rest)
      (by omega) (Ends.append back (ends_of_cons (by simp) rest))
    refine ⟨[(some s, w)], ?_, bind_map_eq_ok_iff.2 ⟨j, [], meaning, rfl, rfl⟩⟩
    simp only [List.append_assoc, List.cons_append]
    rw [readMembers_blanks first]
    exact readMembers_last named (skipSpace_blanks second rfl _)
      ((readValue_blanks front fuel _).trans read) (skipSpace_blanks back rfl _)
  | depth, _, _, @SpellsMembers.more _ start name colon before text after next s j ms first named
      second front h back others, fuel, rest, enough => by
    obtain ⟨fuel, rfl⟩ : ∃ k, fuel = k + 1 := ⟨fuel - 1, by omega⟩
    simp only [List.length_append, List.length_cons] at enough
    obtain ⟨w, read, meaning⟩ := readValue_of_spells h fuel
      (after ++ ',' :: (next ++ '\x7d' :: rest)) (by omega)
      (Ends.append back (ends_of_cons (by simp) _))
    obtain ⟨members, more, meanings⟩ := readMembers_of_spells others fuel rest (by omega)
    refine ⟨(some s, w) :: members, ?_, bind_map_eq_ok_iff.2 ⟨j, ms, meaning, meanings, rfl⟩⟩
    simp only [List.append_assoc, List.cons_append]
    rw [readMembers_blanks first]
    exact readMembers_more named (skipSpace_blanks second rfl _)
      ((readValue_blanks front fuel _).trans read) (skipSpace_blanks back rfl _) more

end

end Written

/-! ## Whole texts -/

open Written

/-- A text is decoded if a value stands in it with blanks around it, and the value is decoded. -/
theorem Decoder.decodeText_eq_ok_iff {α : Type} {decode : Decoder α} {s : String} {a : α} :
    decode.decodeText s = .ok a ↔ ∃ w rest,
      readValue (2 * s.toList.length + 2) s.toList = (w, some rest) ∧ Blanks rest ∧
        decode (bounded maxDepth w) = .ok a := by
  unfold decodeText ofChars
  generalize readValue (2 * s.toList.length + 2) s.toList = reading
  obtain ⟨w, rest?⟩ := reading
  dsimp only
  have blank : rest?.any (fun rest => (skipSpace rest).isEmpty) = true ↔
      ∃ rest, rest? = some rest ∧ Blanks rest := by
    cases rest? with
    | none => simp
    | some rest => simp [skipSpace_eq_nil_iff]
  constructor
  · intro h
    cases meaning : decode (bounded maxDepth w) with
    | error fault =>
      rw [meaning] at h
      cases h
    | ok b =>
      rw [meaning, Except.bind] at h
      split at h
      · rename_i closed
        cases h
        obtain ⟨rest, rfl, blanks⟩ := blank.1 closed
        exact ⟨w, rest, rfl, blanks, meaning⟩
      · cases h
  · rintro ⟨w, rest, same, blanks, meaning⟩
    cases same
    rw [meaning, Except.bind, if_pos (blank.2 ⟨rest, rfl, blanks⟩)]

/-- A text is read as a value exactly if it is a document of the value. -/
theorem read?_eq_ok_iff {s : String} {j : Json} : read? s = .ok j ↔ Document s.toList j := by
  unfold read?
  rw [Decoder.decodeText_eq_ok_iff]
  constructor
  · rintro ⟨w, after, read, back, meaning⟩
    obtain ⟨before, text, front, whole, spelled⟩ := spells_of_readValue _ _ read meaning
    exact ⟨before, text, after, front, spelled, back, whole⟩
  · rintro ⟨before, text, after, front, spelled, back, whole⟩
    have enough : 2 * text.length ≤ 2 * s.toList.length + 2 := by
      rw [whole]
      simp only [List.length_append]
      omega
    have ends : Ends after := by
      have closed : Ends (after ++ []) := Ends.append back (by simp [Ends])
      rwa [List.append_nil] at closed
    obtain ⟨w, read, meaning⟩ := readValue_of_spells spelled _ after enough ends
    refine ⟨w, after, ?_, back, meaning⟩
    rw [← readValue_blanks front, ← whole] at read
    exact read

/-- A text is a document of one value at most. -/
theorem Document.unique {s : String} {j k : Json} (hj : Document s.toList j)
    (hk : Document s.toList k) : j = k := by
  have first := read?_eq_ok_iff.2 hj
  have second := read?_eq_ok_iff.2 hk
  rw [first] at second
  cases second
  rfl

end Turnstile.Json
