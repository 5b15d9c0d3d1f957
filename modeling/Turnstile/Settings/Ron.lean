import Turnstile.Settings.Value
import Turnstile.Text.Hex
import Turnstile.Text.Reader

/-!
Reading of settings files in RON: structures in parentheses, maps in braces, lists in brackets,
options, and comments. Main statement: an integer that does not fit into 64 bits with a sign is
taken for the negative one with the same bits (`wrapped_emod`).
-/

namespace Turnstile.Ron

open Text Text.Reader

/-! ## Gaps -/

/-- Whether a character may stand between the parts of a file. -/
def isGap (c : Char) : Bool := c = ' ' || c = '\t' || c = '\n' || c = '\r'

/-- The rest of a comment with stars, inside of which `depth` more of them have begun. -/
def blockRest : Nat → List Char → Option (Unit × List Char)
  | depth, '/' :: '*' :: cs => blockRest (depth + 1) cs
  | 0, '*' :: '/' :: cs => some ((), cs)
  | depth + 1, '*' :: '/' :: cs => blockRest depth cs
  | depth, _ :: cs => blockRest depth cs
  | _, [] => none

/-- A comment. -/
def comment : Reader Unit :=
  (word ['/', '*'] *> blockRest 0) <|> (do
    word ['/', '/']
    let _ ← span (· ≠ '\n'))

/-- What may stand between the parts of a file. -/
def gap : Reader Unit := do let _ ← many ((do let _ ← span1 isGap) <|> comment)

/-- A comma with what may stand around it. -/
def comma : Reader Unit := gap *> char ',' *> gap

/-! ## Names -/

/-- Whether a character may begin a name. -/
def startsName (c : Char) : Bool := c.isAlpha || c = '_'

/-- Whether a character may stand in a name. -/
def isNamePart (c : Char) : Bool := c.isAlphanum || c = '_'

/-- Whether a character may stand in a name behind the mark of raw names. -/
def isRawPart (c : Char) : Bool := isNamePart c || c = '.' || c = '+' || c = '-'

/-- A name. -/
def name : Reader String :=
  (do
    word ['r', '#']
    return .ofList (← span1 isRawPart)) <|>
  (do
    let cs ← rest
    if ['r', '"'].isPrefixOf cs || ['r', '#'].isPrefixOf cs then failure
    let first ← one startsName
    return .ofList (first :: (← span isNamePart)))

/-- A word that no part of a name follows. -/
def keyword (w : String) : Reader Unit := do
  word w.toList
  if ((← rest).head?).any isNamePart then failure

/-! ## Numbers -/

/-- Whether a character may stand in an integer. -/
def isIntChar (c : Char) : Bool := (hexValue? c).isSome || c = '_'

/-- Whether a character may stand in a floating-point number. -/
def isFloatChar (c : Char) : Bool := isDigit c || "eE.+-_".toList.contains c

/-- The number of some digits in a base, with underscores that do not count. -/
def digitsIn? (base : Nat) (cs : List Char) : Option Nat :=
  if cs.isEmpty || cs.head? = some '_' then none
  else (cs.filter (· ≠ '_')).foldlM
    (fun n c => ((hexValue? c).filter (· < base)).map (n * base + ·)) 0

/-- The integer of 64 bits with a sign that has the bits of one without. -/
def wrapped (n : Nat) : Int :=
  if n < Nat.pow 2 63 then n else (n : Int) - (Nat.pow 2 64 : Int)

/-- A sign, which may be missing. -/
def sign? : Reader (Option Char) := optional? (one fun c => c = '+' || c = '-')

/-- An integer of 64 bits, in base ten or behind the mark of another base. -/
def integer : Reader Setting := do
  let sign? ← sign?
  let base ← (do word ['0', 'x']; pure 16) <|> (do word ['0', 'b']; pure 2) <|>
    (do word ['0', 'o']; pure 8) <|> pure 10
  match sign?, digitsIn? base (← span isIntChar) with
  | _, none => failure
  | none, some n => if n < Nat.pow 2 64 then return .int (wrapped n) else failure
  | some c, some n =>
    let i : Int := if c = '-' then -(n : Int) else n
    if -(Nat.pow 2 63 : Int) ≤ i ∧ i < (Nat.pow 2 63 : Int) then return .int i else failure

/-- A decimal number. -/
def float : Reader Setting := do
  let run ← span1 isFloatChar
  let number : Reader Setting := do
    let negative := (← sign?) = some '-'
    let whole ← span isDigit
    let fraction := (← optional? (char '.' *> span isDigit)).getD []
    if (whole ++ fraction).isEmpty then failure
    let exponent? ← optional? do
      let _ ← one fun c => c = 'e' || c = 'E'
      let negative := (← sign?) = some '-'
      let n := digitsValue (← span1 isDigit)
      return if negative then -(n : Int) else (n : Int)
    return .real (.ofScientific negative (digitsValue (whole ++ fraction))
      (exponent?.getD 0 - fraction.length))
  (whole? number run).elim failure pure

/-- A number. What looks longer as a floating-point number than as an integer is one. -/
def number : Reader Setting := do
  let cs ← rest
  if !(cs.head?).any fun c => isDigit c || c = '+' || c = '-' || c = '.' then failure
  let digits := if (cs.head?).any fun c => c = '+' || c = '-' then cs.drop 1 else cs
  if (digits.takeWhile isIntChar).length < (digits.takeWhile isFloatChar).length then float
  else integer <|> float

/-- An infinity, or what is no number. -/
def special : Reader Setting :=
  (do keyword "inf"; return .real (.infinite false)) <|>
    (do keyword "-inf"; return .real (.infinite true)) <|>
    (do keyword "+inf"; return .real (.infinite false)) <|>
    (do keyword "NaN"; return .real .undefined)

/-! ## Texts -/

/-- The character of some digits of base sixteen. -/
def numbered (digits : List Char) : Reader Char :=
  ((hexNumber? digits).bind charOfNumber?).elim failure pure

/-- An escape. -/
def escape : Reader Char := do
  char '\\'
  match ← next with
  | '\'' => return '\''
  | '"' => return '"'
  | '\\' => return '\\'
  | 'n' => return '\n'
  | 'r' => return '\r'
  | 't' => return '\t'
  | '0' => return '\x00'
  | 'x' => numbered (← exactly 2 fun c => (hexValue? c).isSome)
  | 'u' => do
    char '\x7b'
    let digits ← span1 fun c => (hexValue? c).isSome
    char '\x7d'
    if digits.length ≤ 6 then numbered digits else failure
  | _ => failure

/-- A text in double quotes, with escapes. -/
def escapedText : Reader String := do
  char '"'
  let cs ← many (one (fun c => c ≠ '"' && c ≠ '\\') <|> escape)
  char '"'
  return .ofList cs

/-- What stands before a quote with some hash signs behind it, both of which are taken. -/
def rawRest (ending : List Char) : List Char → Option (List Char × List Char)
  | [] => none
  | c :: cs =>
    if ending.isPrefixOf (c :: cs) then some ([], (c :: cs).drop ending.length)
    else (rawRest ending cs).map fun (taken, rest) => (c :: taken, rest)

/-- A text that stands as it is, between quotes with the same number of hash signs. -/
def rawText : Reader String := do
  char 'r'
  let marks ← span (· = '#')
  char '"'
  return .ofList (← rawRest ('"' :: marks))

/-- A character in single quotes. -/
def character : Reader String := do
  char '\''
  let c ← one (fun c => c ≠ '\\') <|> escape
  char '\''
  return .ofList [c]

/-- A text. -/
def text : Reader String := escapedText <|> rawText <|> character

/-! ## Values -/

/-- Items with commas between them; a comma may follow the last. -/
def items {α : Type} (opening closing : Char) (item : Reader α) : Reader (List α) := do
  char opening
  gap
  let found ← separated item comma
  if !found.isEmpty then
    let _ ← optional? comma
  gap
  char closing
  return found

/-- A key and a value. -/
def pair (key : Reader String) (value : Reader Setting) : Reader (String × Setting) := do
  let key ← key
  gap
  char ':'
  gap
  return (key, ← value)

/-- The table of some pairs; of several values under one key the last counts. -/
def tableOf (pairs : List (String × Setting)) : Setting := .table (Table.ofList pairs).entries

/-- The parts of a structure: fields with names, or values in a row; one without parentheses has
none. -/
def structured (value : Reader Setting) : Reader Setting :=
  (do
    let named? := (do char '('; gap; let _ ← name; gap; char ':' : Reader Unit)
    match named? (← rest) with
    | some _ => return tableOf (← items '(' ')' (pair name value))
    | none => return .list (← items '(' ')' value))

/-- A value with fewer than `depth` values around its parts. -/
def value : Nat → Reader Setting
  | 0, _ => none
  | depth + 1, cs =>
    let inner := value depth
    let present : Reader Setting := do
      keyword "Some"
      gap
      char '('
      gap
      let s ← inner
      let _ ← optional? comma
      gap
      char ')'
      return s
    let any : Reader Setting :=
      (do keyword "true"; return .flag true) <|>
      (do keyword "false"; return .flag false) <|>
      present <|>
      (do keyword "None"; return .absent) <|>
      (do word ['(', ')']; return .absent) <|>
      special <|>
      (do
        let _ ← name
        gap
        if (← rest).head? = some '(' then structured inner else return .absent) <|>
      structured inner <|>
      Setting.list <$> items '[' ']' inner <|>
      tableOf <$> items '\x7b' '\x7d' (pair text inner) <|>
      number <|>
      Setting.text <$> text
    any cs

/-! ## Files -/

/-- The names of extensions of the notation. -/
def extensions : List String := ["unwrap_newtypes", "implicit_some", "unwrap_variant_newtypes"]

/-- A line that turns extensions on. -/
def enabling : Reader Unit := do
  char '#'
  gap
  char '!'
  gap
  char '['
  gap
  keyword "enable"
  gap
  let names ← items '(' ')' name
  gap
  char ']'
  if names.isEmpty || !names.all extensions.contains then failure

/-- How many values may be inside of each other. -/
def depthLimit : Nat := 128

/-- The entries that a file describes, which must be a structure with names or a map. -/
def read? (s : String) : Option (List (String × Setting)) :=
  let file : Reader Setting := do
    gap
    let _ ← many (enabling <* gap)
    value depthLimit <* gap
  match whole? file s.toList with
  | some (.table entries) => some entries
  | _ => none

/-! ## Lemmas -/

/-- A wrapped integer has 64 bits and a sign, and its bits are those of the integer without one. -/
theorem wrapped_emod {n : Nat} (h : n < Nat.pow 2 64) :
    -(Nat.pow 2 63 : Int) ≤ wrapped n ∧ wrapped n < (Nat.pow 2 63 : Int) ∧
      wrapped n % (Nat.pow 2 64 : Int) = n := by
  have half : (Nat.pow 2 64 : Int) = (Nat.pow 2 63 : Int) + (Nat.pow 2 63 : Int) := by decide
  have bound : (n : Int) < (Nat.pow 2 64 : Int) := by exact_mod_cast h
  unfold wrapped
  split
  · next small =>
    have low : (n : Int) < (Nat.pow 2 63 : Int) := by exact_mod_cast small
    have same : (n : Int) % (Nat.pow 2 64 : Int) = n := Int.emod_eq_of_lt (by omega) bound
    omega
  · next large =>
    have high : (Nat.pow 2 63 : Int) ≤ (n : Int) := by exact_mod_cast Nat.le_of_not_lt large
    have same : ((n : Int) - (Nat.pow 2 64 : Int)) % (Nat.pow 2 64 : Int) = n := by
      rw [Int.sub_emod_right, Int.emod_eq_of_lt (by omega) bound]
    omega

end Turnstile.Ron
