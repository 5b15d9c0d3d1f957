import Turnstile.Json.Basic
import Turnstile.Number.Shortest
import Turnstile.Text.Hex

/-!
The compact text of a JSON value: no blanks, members in order, and in strings an escape for the
quote, the backslash and the control characters only.
-/

namespace Turnstile.Json

/-- A character as it stands inside a string. -/
def escapeChar (c : Char) : List Char :=
  if c = '"' then ['\\', '"']
  else if c = '\\' then ['\\', '\\']
  else if c = '\n' then ['\\', 'n']
  else if c = '\r' then ['\\', 'r']
  else if c = '\t' then ['\\', 't']
  else if c = '\x08' then ['\\', 'b']
  else if c = '\x0c' then ['\\', 'f']
  else if c.toNat < 0x20 then '\\' :: 'u' :: Text.hexDigits 4 c.toNat
  else [c]

/-- A string between quotes. -/
def quote (s : String) : List Char := '"' :: s.toList.flatMap escapeChar ++ ['"']

/-- A number: an integer by its numeral, any other by its shortest text. -/
def Number.chars : Number → List Char
  | .int i => (Text.writeInt i).toList
  | .double d => d.text.toList

/-- The text of a number. -/
def Number.text (n : Number) : String := .ofList n.chars

mutual

/-- The characters of a value's text. -/
def chars : Json → List Char
  | .null => ['n', 'u', 'l', 'l']
  | .bool true => ['t', 'r', 'u', 'e']
  | .bool false => ['f', 'a', 'l', 's', 'e']
  | .number n => n.chars
  | .string s => quote s
  | .array [] => ['[', ']']
  | .array (j :: rest) => '[' :: chars j ++ itemsChars rest
  | .object [] => ['\x7b', '\x7d']
  | .object ((name, j) :: rest) => '\x7b' :: quote name ++ ':' :: chars j ++ membersChars rest

/-- The items after the first, each behind a comma, and the closing bracket. -/
def itemsChars : List Json → List Char
  | [] => [']']
  | j :: rest => ',' :: chars j ++ itemsChars rest

/-- The members after the first, each behind a comma, and the closing brace. -/
def membersChars : List (String × Json) → List Char
  | [] => ['\x7d']
  | (name, j) :: rest => ',' :: quote name ++ ':' :: chars j ++ membersChars rest

end

/-- The compact text of a value. -/
def text (j : Json) : String := .ofList j.chars

end Turnstile.Json
