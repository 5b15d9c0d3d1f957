import Turnstile.Settings.Value
import Turnstile.Text.Blank
import Turnstile.Text.Hex
import Turnstile.Text.Letter
import Turnstile.Text.Reader

/-!
Reading of settings files in JSON5: JSON with comments, with texts in quotes of two kinds, with bare
names as keys, with a comma that may follow the last item, and with more forms of numbers. Main
statement: of several values under one key the last counts (`lookupIn_tableOf_append`).
-/

namespace Turnstile.Json5

open Text Text.Reader

/-! ## Gaps -/

/-- Whether a character ends a line. -/
def isLineEnd (c : Char) : Bool := c = '\n' || c = '\r' || c = '\u2028' || c = '\u2029'

/-- Whether a character may stand between the parts of a file: white space but for the control of
the next line, and the mark of byte order. -/
def isGap (c : Char) : Bool := (isBlank c && c ≠ '\u0085') || c = '\ufeff'

/-- The rest of a comment between a slash with a star and a star with a slash. -/
def blockRest : List Char → Option (Unit × List Char)
  | '*' :: '/' :: cs => some ((), cs)
  | _ :: cs => blockRest cs
  | [] => none

/-- A comment. -/
def comment : Reader Unit :=
  (word ['/', '*'] *> blockRest) <|> (do
    word ['/', '/']
    let _ ← span (!isLineEnd ·))

/-- What may stand between the parts of a file. -/
def gap : Reader Unit := do let _ ← many ((do let _ ← span1 isGap) <|> comment)

/-! ## Texts -/

/-- A unit of sixteen bits behind the mark of its escape. -/
def unit16 : Reader Nat := do
  word ['\\', 'u']
  ((← exactly 4 fun c => (hexValue? c).isSome) |> hexNumber?).elim failure pure

/-- A character as one unit, or as two, the second of which is the trailing one. -/
def unicodeEscape : Reader Char := do
  let first ← unit16
  if 0xD800 ≤ first ∧ first < 0xDC00 then
    let second ← unit16
    if 0xDC00 ≤ second ∧ second < 0xE000 then
      (charOfNumber? (0x10000 + (first - 0xD800) * 0x400 + (second - 0xDC00))).elim failure pure
    else failure
  else (charOfNumber? first).elim failure pure

/-- A character of two digits of base sixteen. -/
def byteEscape : Reader Char := do
  word ['\\', 'x']
  let digits ← exactly 2 fun c => (hexValue? c).isSome
  ((hexNumber? digits).bind charOfNumber?).elim failure pure

/-- A line end behind a backslash, which vanishes. -/
def lineJoin : Reader Unit := do
  char '\\'
  word ['\r', '\n'] <|> (do let _ ← one isLineEnd)

/-- A character behind a backslash: one with a meaning of its own, or itself. -/
def charEscape : Reader Char := do
  char '\\'
  match ← next with
  | '0' => return '\x00'
  | 'b' => return '\x08'
  | 'f' => return '\x0c'
  | 'n' => return '\n'
  | 'r' => return '\r'
  | 't' => return '\t'
  | 'v' => return '\x0b'
  | c => if isDigit c || c = 'x' || c = 'u' || isLineEnd c then failure else return c

/-- A piece of a text in quotes. -/
def piece (quote : Char) : Reader (List Char) :=
  (do return [← one fun c => c ≠ quote && c ≠ '\\' && !isLineEnd c]) <|>
    (do lineJoin; return []) <|>
    (do return [← unicodeEscape <|> byteEscape <|> charEscape])

/-- A text in quotes of one kind. -/
def quoted (quote : Char) : Reader String := do
  char quote
  let pieces ← many (piece quote)
  char quote
  return .ofList pieces.flatten

/-- A text. -/
def text : Reader String := quoted '"' <|> quoted '\''

/-- Whether a character may begin a bare name. -/
def startsName (c : Char) : Bool :=
  c = '$' || c = '_' || (isLetterOrNumber c && !isDigit c)

/-- Whether a character may stand in a bare name. -/
def isNamePart (c : Char) : Bool :=
  startsName c || isDigit c || c = '\u200c' || c = '\u200d'

/-- A bare name. -/
def name : Reader String := do
  let first ← one startsName <|> unicodeEscape
  let rest ← many (one isNamePart <|> unicodeEscape)
  return .ofList (first :: rest)

/-! ## Numbers -/

/-- A sign, which may be missing. -/
def sign? : Reader (Option Char) := optional? (one fun c => c = '+' || c = '-')

/-- Decimal digits without a leading zero. -/
def whole : Reader (List Char) := (do char '0'; return ['0']) <|> span1 isDigit

/-- What stands behind the mark of an exponent. -/
def exponent : Reader Int := do
  let _ ← one fun c => c = 'e' || c = 'E'
  let negative := (← sign?) = some '-'
  let n := digitsValue (← span1 isDigit)
  return if negative then -(n : Int) else n

/-- An integer in base sixteen, which has 32 bits and no sign. -/
def hexInteger : Reader Setting := do
  char '0'
  let _ ← one fun c => c = 'x' || c = 'X'
  let n := (hexNumber? (← span1 fun c => (hexValue? c).isSome)).getD 0
  if n < Nat.pow 2 32 then return .int n else failure

/-- A number with a point or an exponent is a finite floating-point number, any other an integer of
64 bits. -/
def decimal : Reader Setting := do
  let negative := (← sign?) = some '-'
  let whole? ← optional? whole
  let fraction? ← optional? (char '.' *> span isDigit)
  let exponent? ← optional? exponent
  let digits := whole?.getD [] ++ fraction?.getD []
  if digits.isEmpty then failure
  if fraction?.isNone && exponent?.isNone then
    let n : Int := digitsValue digits
    let i := if negative then -n else n
    if -(Nat.pow 2 63 : Int) ≤ i ∧ i < (Nat.pow 2 63 : Int) then return .int i else failure
  else
    match Extended.ofScientific negative (digitsValue digits)
      (exponent?.getD 0 - (fraction?.getD []).length) with
    | .finite d => return .real (.finite d)
    | _ => failure

/-- An infinity, or what is no number. -/
def special : Reader Setting := do
  let negative := (← optional? (char '-')).isSome
  (do word "Infinity".toList; return .real (.infinite negative)) <|>
    (do word "NaN".toList; return .real .undefined)

/-- A number. -/
def number : Reader Setting := hexInteger <|> decimal <|> special

/-! ## Values -/

/-- A value that is a word. -/
def literal : Reader Setting :=
  (do word "null".toList; return .absent) <|>
    (do word "true".toList; return .flag true) <|>
    (do word "false".toList; return .flag false)

/-- Items between two brackets; a comma may follow the last of them. -/
def bracketed {α : Type} (opening closing : Char) (item : Reader α) : Reader (List α) := do
  char opening
  gap
  let items ← separated (item <* gap) (char ',' *> gap)
  if !items.isEmpty then
    let _ ← optional? (char ',')
  gap
  char closing
  return items

/-- A key and a value. -/
def pair (value : Reader Setting) : Reader (String × Setting) := do
  let key ← name <|> text
  gap
  char ':'
  gap
  return (key, ← value)

/-- The table of some pairs; of several values under one key the last counts. -/
def tableOf (pairs : List (String × Setting)) : Setting := .table (Table.ofList pairs).entries

/-- A value with fewer than `depth` lists and tables inside each other. -/
def value : Nat → Reader Setting
  | 0, _ => none
  | depth + 1, cs =>
    (literal <|> Setting.text <$> text <|> number <|>
      Setting.list <$> bracketed '[' ']' (value depth) <|>
      tableOf <$> bracketed '\x7b' '\x7d' (pair (value depth))) cs

/-- The entries that a file describes, which must be a table. -/
def read? (s : String) : Option (List (String × Setting)) :=
  let cs := s.toList
  match whole? (gap *> value (cs.length + 1) <* gap) cs with
  | some (.table entries) => some entries
  | _ => none

/-! ## Lemmas -/

theorem lookupIn_tableOf_append (pairs : List (String × Setting)) (key : String)
    (value : Setting) :
    Table.lookupIn key (tableOf (pairs ++ [(key, value)])).entries = some value := by
  simp only [tableOf, Setting.entries, Table.ofList, List.foldl_append, List.foldl_cons,
    List.foldl_nil]
  exact Table.find?_insert_self _ key value

end Turnstile.Json5
