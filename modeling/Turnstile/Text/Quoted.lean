import Turnstile.Text.Hex
import Turnstile.Text.Printable

/-!
Texts quoted for a message: between quotes, with an escape for the quote, the backslash and every
character that does not print by itself.
-/

namespace Turnstile.Text

/-- The hexadecimal digits of a number without leading zeros. -/
def shortHex (n : Nat) : List Char :=
  if n < 16 then [hexDigit n] else shortHex (n / 16) ++ [hexDigit (n % 16)]
termination_by n

/-- A character inside quotes. -/
def quotedChar (c : Char) : List Char :=
  if c = '"' then ['\\', '"']
  else if c = '\\' then ['\\', '\\']
  else if c = '\n' then ['\\', 'n']
  else if c = '\r' then ['\\', 'r']
  else if c = '\t' then ['\\', 't']
  else if c = '\x00' then ['\\', '0']
  else if isPrintable c then [c]
  else '\\' :: 'u' :: '\x7b' :: shortHex c.toNat ++ ['\x7d']

/-- A text between quotes. -/
def quoted (s : String) : String := .ofList ('"' :: s.toList.flatMap quotedChar ++ ['"'])

end Turnstile.Text
