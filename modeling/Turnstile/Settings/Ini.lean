import Turnstile.Settings.Value
import Turnstile.Text.Blank
import Turnstile.Text.Hex
import Turnstile.Text.Reader

/-!
Reading of settings files in the notation of sections: headers in brackets, keys and values with an
equals sign or a colon between them, and comments, which begin a line. All values are texts. A
section that is opened again has lost its values.
-/

namespace Turnstile.Ini

open Text Text.Reader

/-! ## Texts -/

/-- The character of four digits of base sixteen; a plus sign may stand for the first. -/
def numbered : Reader Char := do
  let digits ← exactly 4 fun c => c = '+' || (hexValue? c).isSome
  let digits := if digits.head? = some '+' then digits.drop 1 else digits
  ((hexNumber? digits).bind charOfNumber?).elim failure pure

/-- What an escape stands for; a line end behind the backslash vanishes, and a character without a
meaning of its own stands for itself. -/
def escape : Reader (List Char) := do
  char '\\'
  match ← next with
  | '0' => return ['\x00']
  | 'a' => return ['\x07']
  | 'b' => return ['\x08']
  | 't' => return ['\t']
  | 'r' => return ['\r']
  | 'n' => return ['\n']
  | '\n' => return []
  | 'x' => return [← numbered]
  | c => return [c]

/-- A text up to a character that ends it, which is left. -/
def textUntil (ends : Char → Bool) : Reader (List Char) := do
  let pieces ← many (escape <|> (do return [← one fun c => c ≠ '\\' && !ends c]))
  return pieces.flatten

/-- Whether a character ends a line. -/
def isLineEnd (c : Char) : Bool := c = '\n' || c = '\r'

/-- The rest of a line. -/
def lineRest : Reader (List Char) := do
  let cs ← textUntil isLineEnd
  match (← rest).head? with
  | some c => if isLineEnd c then return cs else failure
  | none => return cs

/-- A text in quotes of one kind. -/
def quoted (quote : Char) : Reader (List Char) := do
  char quote
  let cs ← textUntil (· = quote)
  char quote
  return cs

/-! ## Items -/

/-- A part of a file. -/
inductive Item
  | comment
  | section (name : String)
  | key (name : String)
  | value (text : String)
deriving DecidableEq, Repr

/-- A comment up to the end of its line. -/
def comment : Reader Item := do
  let _ ← one fun c => c = ';' || c = '#'
  let _ ← span (· ≠ '\n')
  return .comment

/-- The header of a section. -/
def header : Reader Item := do
  char '['
  let name ← textUntil (· = ']')
  char ']'
  return .section (.ofList (trimChars name))

/-- Whether a character stands between a key and its value. -/
def separates (c : Char) : Bool := c = '=' || c = ':'

/-- A value behind the mark that separates it from its key. What follows a quoted part up to the end
of the line belongs to it. -/
def value : Reader Item := do
  let _ ← one separates
  let _ ← span fun c => isBlank c && !isLineEnd c
  let cs ← (do return (← quoted '"' <|> quoted '\'') ++ (← lineRest)) <|> do
    let c? := (← rest).head?
    if c? = some '"' ∨ c? = some '\'' then failure else lineRest
  return .value (.ofList (trimChars cs))

/-- A key up to the mark that separates it from its value. -/
def key : Reader Item := do
  let name ← textUntil separates
  match (← rest).head? with
  | some c => if separates c then return .key (.ofList (trimChars name)) else failure
  | none => failure

/-- One item with the blanks behind it, and whether a line begins there. A comment must begin a
line. -/
def item (lineBegins : Bool) : Reader (Item × Bool) := do
  let item ← match (← rest).head? with
    | none => failure
    | some c =>
      if c = ';' ∨ c = '#' then if lineBegins then comment else failure
      else if c = '[' then header
      else if separates c then value
      else key
  let blanks ← span isBlank
  return (item, blanks.getLast? = some '\n')

/-- The items of a text; each one needs fuel. -/
def itemsFrom : Nat → Bool → Reader (List Item)
  | 0, _ => pure []
  | fuel + 1, lineBegins => do
    if (← rest).isEmpty then return []
    let (item, lineBegins) ← item lineBegins
    return item :: (← itemsFrom fuel lineBegins)

/-- The items of a file. -/
def items : Reader (List Item) := do
  let blanks ← span isBlank
  let left ← rest
  itemsFrom left.length (blanks.getLast?.getD '\n' = '\n')

/-! ## Entries -/

/-- What has been made of the items so far: all entries, the section that is open, and a key that
waits for its value. -/
structure Progress where
  entries : List (String × Setting)
  opened : Option String
  key : Option String

/-- Opens a section anew. -/
def Progress.openSection (p : Progress) (name : String) : Progress :=
  { p with entries := Table.insertIn name .empty p.entries, opened := some name }

/-- Puts a value under a key of the section that is open. -/
def Progress.put (p : Progress) (key text : String) : Progress :=
  let entries := match p.opened with
    | none => Table.insertIn key (.text text) p.entries
    | some name =>
      let inner := ((Table.lookupIn name p.entries).getD .empty).entries
      Table.insertIn name (.table (Table.insertIn key (.text text) inner)) p.entries
  { p with entries := entries, key := none }

/-- Takes in an item; a value needs a key that is not empty. -/
def Progress.item? (p : Progress) : Item → Option Progress
  | .comment => some p
  | .section name => some (p.openSection name)
  | .key name => some { p with key := some name }
  | .value text => (p.key.filter (!·.isEmpty)).map (p.put · text)

/-- The entries that a file describes. -/
def read? (s : String) : Option (List (String × Setting)) :=
  (whole? items s.toList).bind fun items =>
    (items.foldlM Progress.item? ⟨[], none, none⟩).map (·.entries)

end Turnstile.Ini
