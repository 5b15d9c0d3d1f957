import Turnstile.Json.Numeral
import Turnstile.Text.Hex

/-!
JSON as it stands in a text, read up to the first fault. A reader that expects a certain shape meets
a fault only when it comes to it, so of a fault and a mismatch the earlier one decides.
-/

namespace Turnstile.Json

/-- A value as written. `unfit` is a well-formed value that has no meaning: a number out of range, a
string with half of a surrogate pair, an array or object nested too deeply. `fault` stands where the
text breaks off or breaks the grammar; nothing follows it. A member whose name is not readable has
none. -/
inductive Written
  | null
  | bool (value : Bool)
  | number (value : Number)
  | string (value : String)
  | array (items : List Written)
  | object (members : List (Option String × Written))
  | unfit
  | fault

namespace Written

instance : Inhabited Written := ⟨.fault⟩

/-- The greatest number of arrays and objects around a value. -/
def maxDepth : Nat := 127

/-! ## Characters -/

/-- The blanks of a JSON text. -/
def isSpace (c : Char) : Bool := c = ' ' || c = '\n' || c = '\t' || c = '\r'

/-- Drops the blanks at the start. -/
def skipSpace (cs : List Char) : List Char := cs.dropWhile isSpace

/-! ## Strings -/

/-- A piece of a string: a character, or a UTF-16 unit named by an escape. -/
inductive Piece
  | char (c : Char)
  | unit (n : Nat)

/-- The character that a one-letter escape names. -/
def plainEscape? (c : Char) : Option Char :=
  if c = '"' then some '"'
  else if c = '\\' then some '\\'
  else if c = '/' then some '/'
  else if c = 'b' then some '\x08'
  else if c = 'f' then some '\x0c'
  else if c = 'n' then some '\n'
  else if c = 'r' then some '\r'
  else if c = 't' then some '\t'
  else none

/-- The pieces of a string up to its closing quote, and what follows; `none` if the string is not
well-formed. -/
def pieces? : List Char → Option (List Piece × List Char)
  | [] => none
  | '"' :: rest => some ([], rest)
  | '\\' :: 'u' :: a :: b :: c :: d :: rest =>
    (Text.hexNumber? [a, b, c, d]).bind fun n =>
      (pieces? rest).map fun (more, after) => (.unit n :: more, after)
  | '\\' :: c :: rest =>
    (plainEscape? c).bind fun plain =>
      (pieces? rest).map fun (more, after) => (.char plain :: more, after)
  | c :: rest =>
    if c = '\\' ∨ c.toNat < 0x20 then none
    else (pieces? rest).map fun (more, after) => (.char c :: more, after)

/-- The characters of a string; `none` if half of a surrogate pair stands alone. -/
def joinPieces? : List Piece → Option (List Char)
  | [] => some []
  | .char c :: rest => (joinPieces? rest).map (c :: ·)
  | .unit high :: .unit low :: rest =>
    if 0xD800 ≤ high ∧ high < 0xDC00 then
      if 0xDC00 ≤ low ∧ low < 0xE000 then
        (joinPieces? rest).map
          (Char.ofNat (0x10000 + (high - 0xD800) * 0x400 + (low - 0xDC00)) :: ·)
      else none
    else if 0xDC00 ≤ high ∧ high < 0xE000 then none
    else (joinPieces? (.unit low :: rest)).map (Char.ofNat high :: ·)
  | .unit n :: rest =>
    if 0xD800 ≤ n ∧ n < 0xE000 then none else (joinPieces? rest).map (Char.ofNat n :: ·)

/-- A string behind its opening quote, and what follows. -/
def readString (cs : List Char) : Option (Option String × List Char) :=
  (pieces? cs).map fun (found, rest) => ((joinPieces? found).map String.ofList, rest)

/-! ## Numerals -/

/-- A run of digits at the start, and what follows. -/
def spanDigits (cs : List Char) : List Char × List Char :=
  (cs.takeWhile Text.isDigit, cs.dropWhile Text.isDigit)

/-- The exponent of a numeral behind its mark. -/
def readExponent? (cs : List Char) : Option ((Bool × List Char) × List Char) :=
  let (below, cs) := match cs with
    | '+' :: rest => (false, rest)
    | '-' :: rest => (true, rest)
    | _ => (false, cs)
  let (digits, rest) := spanDigits cs
  if digits.isEmpty then none else some ((below, digits), rest)

/-- A numeral behind its sign: digits without a leading zero, a fraction, an exponent. -/
def readNumeral? (negative : Bool) (cs : List Char) : Option (Numeral × List Char) :=
  let (whole, rest) := spanDigits cs
  if whole.isEmpty || (whole.head? = some '0' && whole.length ≠ 1) then none
  else
    let fraction? := match rest with
      | '.' :: rest =>
        let (digits, rest) := spanDigits rest
        if digits.isEmpty then none else some (digits, rest)
      | _ => some ([], rest)
    fraction?.bind fun (fraction, rest) =>
      match rest with
      | c :: after =>
        if c = 'e' ∨ c = 'E' then
          (readExponent? after).map fun (exponent, rest) =>
            (⟨negative, whole, fraction, some exponent⟩, rest)
        else some (⟨negative, whole, fraction, none⟩, rest)
      | [] => some (⟨negative, whole, fraction, none⟩, [])

/-- A number as written. -/
def ofNumeral (n : Numeral) : Written :=
  match n.number? with
  | some value => .number value
  | none => .unfit

/-! ## Values -/

/-- Drops a fixed word at the start. -/
def dropWord? : List Char → List Char → Option (List Char)
  | [], cs => some cs
  | w :: word, c :: cs => if w = c then dropWord? word cs else none
  | _ :: _, [] => none

/-- A value and what follows it; nothing follows a fault. -/
abbrev Reading := Written × Option (List Char)

/-- The reading of a value that ends the text with a fault. -/
def broken : Reading := (.fault, none)

/-- A word that stands for a value. -/
def readWord (word : List Char) (value : Written) (cs : List Char) : Reading :=
  match dropWord? word cs with
  | some rest => (value, some rest)
  | none => broken

/-- A number behind its sign. -/
def readNumber (negative : Bool) (cs : List Char) : Reading :=
  match readNumeral? negative cs with
  | some (n, rest) => (ofNumeral n, some rest)
  | none => broken

mutual

/-- Reads a value; every call nested in another has less fuel. -/
def readValue : Nat → List Char → Reading
  | 0, _ => broken
  | fuel + 1, cs =>
    match skipSpace cs with
    | [] => broken
    | c :: rest =>
      if c = 'n' then readWord ['u', 'l', 'l'] .null rest
      else if c = 't' then readWord ['r', 'u', 'e'] (.bool true) rest
      else if c = 'f' then readWord ['a', 'l', 's', 'e'] (.bool false) rest
      else if c = '"' then
        match readString rest with
        | some (some s, rest) => (.string s, some rest)
        | some (none, rest) => (.unfit, some rest)
        | none => broken
      else if c = '-' then readNumber true rest
      else if Text.isDigit c then readNumber false (c :: rest)
      else if c = '[' then
        match skipSpace rest with
        | ']' :: rest => (.array [], some rest)
        | _ =>
          let (items, rest?) := readItems fuel rest
          (.array items, rest?)
      else if c = '\x7b' then
        match skipSpace rest with
        | '\x7d' :: rest => (.object [], some rest)
        | _ =>
          let (members, rest?) := readMembers fuel rest
          (.object members, rest?)
      else broken

/-- Reads the items of an array up to its closing bracket; a fault ends the list. -/
def readItems : Nat → List Char → List Written × Option (List Char)
  | 0, _ => ([.fault], none)
  | fuel + 1, cs =>
    match readValue fuel cs with
    | (item, none) => ([item], none)
    | (item, some rest) =>
      match skipSpace rest with
      | ',' :: rest =>
        let (items, rest?) := readItems fuel rest
        (item :: items, rest?)
      | ']' :: rest => ([item], some rest)
      | _ => ([item, .fault], none)

/-- Reads the members of an object up to its closing brace; a fault ends the list. -/
def readMembers : Nat → List Char → List (Option String × Written) × Option (List Char)
  | 0, _ => ([(none, .fault)], none)
  | fuel + 1, cs =>
    match skipSpace cs with
    | '"' :: rest =>
      match readString rest with
      | none => ([(none, .fault)], none)
      | some (name, rest) =>
        match skipSpace rest with
        | ':' :: rest =>
          match readValue fuel rest with
          | (value, none) => ([(name, value)], none)
          | (value, some rest) =>
            match skipSpace rest with
            | ',' :: rest =>
              let (members, rest?) := readMembers fuel rest
              ((name, value) :: members, rest?)
            | '\x7d' :: rest => ([(name, value)], some rest)
            | _ => ([(name, value), (none, .fault)], none)
        | _ => ([(name, .fault)], none)
    | _ => ([(none, .fault)], none)

end

/-! ## Depth -/

mutual

/-- Whether no fault is met when the value is passed over. -/
def isSound : Written → Bool
  | .fault => false
  | .array items => allSound items
  | .object members => allMembersSound members
  | _ => true

/-- Whether every item is sound. -/
def allSound : List Written → Bool
  | [] => true
  | w :: rest => isSound w && allSound rest

/-- Whether the value of every member is sound. -/
def allMembersSound : List (Option String × Written) → Bool
  | [] => true
  | (_, w) :: rest => isSound w && allMembersSound rest

end

mutual

/-- Replaces the arrays and objects nested deeper than `budget` by what remains of them: a value
without meaning, or a fault. -/
def bounded : Nat → Written → Written
  | 0, .array items => if allSound items then .unfit else .fault
  | 0, .object members => if allMembersSound members then .unfit else .fault
  | budget + 1, .array items => .array (boundedItems budget items)
  | budget + 1, .object members => .object (boundedMembers budget members)
  | _, w => w

/-- Bounds the depth of every item. -/
def boundedItems : Nat → List Written → List Written
  | _, [] => []
  | budget, w :: rest => bounded budget w :: boundedItems budget rest

/-- Bounds the depth of every member. -/
def boundedMembers : Nat → List (Option String × Written) → List (Option String × Written)
  | _, [] => []
  | budget, (name, w) :: rest => (name, bounded budget w) :: boundedMembers budget rest

end

/-! ## Documents -/

/-- The value at the start of a text, and whether only blanks follow it. -/
def ofChars (cs : List Char) : Written × Bool :=
  let (value, rest?) := readValue (2 * cs.length + 2) cs
  (value.bounded maxDepth, rest?.any fun rest => (skipSpace rest).isEmpty)

mutual

/-- A value as it would be written. -/
def ofJson : Json → Written
  | .null => .null
  | .bool b => .bool b
  | .number n => .number n
  | .string s => .string s
  | .array items => .array (ofItems items)
  | .object members => .object (ofMembers members)

/-- Items as they would be written. -/
def ofItems : List Json → List Written
  | [] => []
  | j :: rest => ofJson j :: ofItems rest

/-- Members as they would be written. -/
def ofMembers : List (String × Json) → List (Option String × Written)
  | [] => []
  | (name, j) :: rest => (some name, ofJson j) :: ofMembers rest

end

end Written

end Turnstile.Json
