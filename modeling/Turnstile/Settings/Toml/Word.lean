import Turnstile.Text.Hex
import Turnstile.Text.Reader

/-!
The texts and keys of settings files: texts in one or three quotes of two kinds, bare keys, and keys
with points between them.
-/

namespace Turnstile.Toml

open Text Text.Reader

/-! ## Characters -/

/-- Whether a character is a blank within a line. -/
def isSpace (c : Char) : Bool := c = ' ' || c = '\t'

/-- Whether a character may stand in a line: tabs and all but the control characters. -/
def isPlain (c : Char) : Bool := c = '\t' || (' ' ≤ c && c ≠ '\x7f')

/-- Blanks within a line. -/
def spaces : Reader Unit := do let _ ← span isSpace

/-- The end of a line. -/
def lineEnd : Reader Unit := word ['\n'] <|> word ['\r', '\n']

/-- A comment up to the end of its line. -/
def comment : Reader Unit := do
  char '#'
  let _ ← span isPlain

/-! ## Texts -/

/-- The value of a digit of base sixteen, ten, eight or two. -/
def digitBelow? (base : Nat) (c : Char) : Option Nat := (hexValue? c).filter (· < base)

/-- The character of a number in base sixteen. -/
def hexChar (count : Nat) : Reader Char := do
  let digits ← exactly count fun c => (hexValue? c).isSome
  ((hexNumber? digits).bind charOfNumber?).elim failure pure

/-- What stands behind a backslash. -/
def escaped : Reader Char := do
  match ← next with
  | 'b' => return '\x08'
  | 't' => return '\t'
  | 'n' => return '\n'
  | 'f' => return '\x0c'
  | 'r' => return '\r'
  | '"' => return '"'
  | '\\' => return '\\'
  | 'u' => hexChar 4
  | 'U' => hexChar 8
  | _ => failure

/-- An escape. -/
def escape : Reader Char := do
  char '\\'
  escaped

/-- A text between two quotes of one kind, whose pieces are read by a reader. -/
def between (quote : Char) (piece : Reader Char) : Reader String := do
  char quote
  let cs ← many piece
  char quote
  return .ofList cs

/-- A text in double quotes, with escapes. -/
def basicText : Reader String :=
  between '"' (one (fun c => isPlain c && c ≠ '"' && c ≠ '\\') <|> escape)

/-- A text in single quotes, as it stands. -/
def literalText : Reader String := between '\'' (one fun c => isPlain c && c ≠ '\'')

/-- One or two quotes inside a text of several lines. -/
def quotesInside (quote : Char) : Reader (List Char) := do
  let run ← span1 (· = quote)
  if run.length < 3 then return run else failure

/-- A line end inside a text of several lines. -/
def lineInside : Reader (List Char) := do
  lineEnd
  return ['\n']

/-- A backslash at the end of a line, which takes the blanks and line ends behind it away. -/
def joinedLines : Reader (List Char) := do
  char '\\'
  spaces
  lineEnd
  let _ ← many ((do let _ ← span1 isSpace) <|> lineEnd)
  return []

/-- A text between three quotes of one kind. A line end directly behind the first three does not
count, and up to two quotes may stand directly before the last three. -/
def betweenThree (quote : Char) (piece : Reader (List Char)) : Reader String := do
  word [quote, quote, quote]
  let _ ← optional? lineEnd
  let pieces ← many (piece <|> lineInside <|> quotesInside quote)
  let run ← span (· = quote)
  if 3 ≤ run.length ∧ run.length ≤ 5 then
    return .ofList (pieces.flatten ++ run.drop 3)
  else failure

/-- A text of several lines in double quotes, with escapes. -/
def basicLines : Reader String :=
  betweenThree '"' <|
    (do return [← one fun c => isPlain c && c ≠ '"' && c ≠ '\\']) <|> joinedLines <|>
      (do return [← escape])

/-- A text of several lines in single quotes, as it stands. -/
def literalLines : Reader String :=
  betweenThree '\'' (do return [← one fun c => isPlain c && c ≠ '\''])

/-- A text of any kind. -/
def text : Reader String := basicLines <|> basicText <|> literalLines <|> literalText

/-! ## Keys -/

/-- Whether a character may stand in a bare key. -/
def isKeyChar (c : Char) : Bool := c.isAlphanum || c = '_' || c = '-'

/-- One key: bare or in quotes. -/
def key : Reader String :=
  basicText <|> literalText <|> (do return .ofList (← span1 isKeyChar))

/-- How many keys may not stand in a row any more, and how many arrays and tables not inside each
other. -/
def nestingLimit : Nat := 80

/-- Keys with points between them. -/
def path : Reader (List String) := do
  let keys ← separated (spaces *> key <* spaces) (char '.')
  if keys.isEmpty || nestingLimit ≤ keys.length then failure else return keys

end Turnstile.Toml
