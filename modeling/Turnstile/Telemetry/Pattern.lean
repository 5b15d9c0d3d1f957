import Turnstile.Text.Hex
import Turnstile.Text.Letter
import Turnstile.Text.Numeral
import Turnstile.Text.Reader

/-!
Search patterns, as far as it matters whether a text is one: letters that stand for themselves,
classes of characters in brackets, groups in parentheses, repetitions and alternatives. Classes that
need a table of characters are not known.
-/

namespace Turnstile.Pattern

open Text Text.Reader

/-! ## Flags -/

/-- What the reading of a pattern depends on: whether all characters count or bytes alone, and
whether the case of letters does not count. -/
structure Mode where
  characters : Bool
  caseless : Bool
deriving DecidableEq, Repr

/-- The mode of a pattern that does not set one. -/
def Mode.standard : Mode := ⟨true, false⟩

/-- Whether a character may stand for itself: without regard to case only bytes can be compared. -/
def Mode.allowsLiteral (m : Mode) : Bool := !(m.characters && m.caseless)

/-- The letters of the flags. -/
def flagLetters : List Char := ['i', 'm', 's', 'U', 'u', 'R', 'x']

/-- A mode with a flag turned on or off. -/
def Mode.set (m : Mode) (flag : Char) (on : Bool) : Mode :=
  if flag = 'i' then { m with caseless := on }
  else if flag = 'u' then { m with characters := on }
  else m

/-- Flags, no two of which are equal; those behind a hyphen, of which there must be one, are turned
off. -/
def flags (m : Mode) : Reader (Mode × Bool) := do
  let on ← span flagLetters.contains
  let off? ← optional? (char '-' *> span1 flagLetters.contains)
  let all := on ++ off?.getD []
  if all.eraseDups.length ≠ all.length then failure
  let m := on.foldl (fun m c => m.set c true) m
  return ((off?.getD []).foldl (fun m c => m.set c false) m, all.isEmpty)

/-! ## Escapes -/

/-- What an escape stands for. -/
inductive Escape
  | literal (c : Char)
  | klass
  | place

/-- A character of some digits of base sixteen. -/
def numbered (count : Nat) : Reader Escape := do
  let digits ← exactly count fun c => (hexValue? c).isSome
  ((hexNumber? digits).bind charOfNumber?).elim failure fun c => return .literal c

/-- An escape: a control character, a number, a class or a place that needs no table, or a character
that is neither a letter nor a digit. -/
def escape (m : Mode) : Reader Escape := do
  char '\\'
  match ← next with
  | 'a' => return .literal '\x07'
  | 'f' => return .literal '\x0c'
  | 't' => return .literal '\t'
  | 'n' => return .literal '\n'
  | 'r' => return .literal '\r'
  | 'v' => return .literal '\x0b'
  | 'x' => numbered 2
  | 'u' => numbered 4
  | 'U' => numbered 8
  | 'A' | 'z' => return .place
  | 'b' | 'B' | '<' | '>' => if m.characters then failure else return .place
  | 'd' | 's' | 'w' => if m.characters then failure else return .klass
  | c => if c.toNat < 128 && !c.isAlphanum then return .literal c else failure

/-! ## Classes -/

/-- The names of classes of ASCII characters. -/
def classNames : List String :=
  ["alnum", "alpha", "ascii", "blank", "cntrl", "digit", "graph", "lower", "print", "punct",
   "space", "upper", "word", "xdigit"]

/-- A class by its name. -/
def namedClass : Reader Unit := do
  word ['[', ':']
  let _ ← optional? (char '^')
  let name ← span Char.isAlpha
  word [':', ']']
  if classNames.contains (.ofList name) then return else failure

/-- A character or an escape in a class; `none` for a class of its own. -/
def classAtom (m : Mode) : Reader (Option Char) :=
  (do
    match ← escape m with
    | .literal c => return some c
    | .klass => return none
    | .place => failure) <|>
  (do return some (← one (· ≠ '\\')))

/-- A character of a class or a range of them, which must not be empty. -/
def classRange (m : Mode) : Reader Unit := do
  let first? ← classAtom m
  let following := (← rest).take 2
  if following.head? = some '-' ∧ following ≠ ['-', ']'] ∧ following ≠ ['-', '-'] then
    char '-'
    match first?, ← classAtom m with
    | some first, some last => if first ≤ last then return else failure
    | _, _ => failure
  else return

/-- The bracket that opens a class. Hyphens that come first stand for themselves, and so does a
closing bracket. -/
def classStart : Reader Unit := do
  char '['
  let _ ← optional? (char '^')
  let hyphens ← span (· = '-')
  if hyphens.isEmpty then
    let _ ← optional? (char ']')

/-- The parts of a class up to the bracket that closes it, with other classes inside. -/
def classRest (m : Mode) : Nat → Reader Unit
  | 0 => failure
  | fuel + 1 => do
    match ← rest with
    | ']' :: _ => char ']'
    | '[' :: _ =>
      namedClass <|> (do
        classStart
        classRest m fuel)
      classRest m fuel
    | _ =>
      word ['&', '&'] <|> word ['-', '-'] <|> word ['~', '~'] <|> classRange m
      classRest m fuel

/-- A class in brackets. -/
def bracketClass (m : Mode) : Reader Unit := do
  if !m.allowsLiteral then failure
  classStart
  let length := (← rest).length
  classRest m (length + 1)

/-! ## Patterns -/

/-- The name of a group. -/
def groupName : Reader String := do
  word ['?', 'P', '<'] <|> word ['?', '<']
  let first ← one fun c => c = '_' || (isLetterOrNumber c && !isDigit c)
  let more ← span fun c => c = '_' || c = '.' || c = '[' || c = ']' || isLetterOrNumber c
  char '>'
  return .ofList (first :: more)

/-- The terms of a pattern up to its end or the end of its group. It is kept whether the term before
can be repeated. -/
def termsFrom : Nat → Mode → (repeatable : Bool) → Reader Unit
  | 0, _, _ => failure
  | fuel + 1, m, repeatable => do
    match (← rest).head? with
    | none | some ')' => return
    | some '|' => char '|' *> termsFrom fuel m false
    | some '\x7b' => failure
    | some '(' =>
      char '('
      let set? ← optional? do
        char '?'
        let (inner, bare) ← flags m
        char ')'
        if bare then failure else return inner
      match set? with
      | some m => termsFrom fuel m false
      | none =>
        let inner ← (do let _ ← groupName; return m) <|>
          (do
            char '?'
            let (inner, _) ← flags m
            char ':'
            return inner) <|>
          (do if (← rest).head? = some '?' then failure else return m)
        termsFrom fuel inner false
        char ')'
        termsFrom fuel m true
    | some '[' => bracketClass m *> termsFrom fuel m true
    | some '\\' => do
      match ← escape m with
      | .literal _ => if m.allowsLiteral then termsFrom fuel m true else failure
      | _ => termsFrom fuel m true
    | some c =>
      let _ ← next
      if c = '*' ∨ c = '+' ∨ c = '?' then
        if repeatable then
          let _ ← optional? (char '?')
          termsFrom fuel m true
        else failure
      else if c = '^' ∨ c = '$' then termsFrom fuel m true
      else if c = '.' then if m.characters then termsFrom fuel m true else failure
      else if m.allowsLiteral then termsFrom fuel m true
      else failure

/-- Whether a text is a pattern. -/
def isPattern (s : String) : Bool :=
  let cs := s.toList
  (whole? (termsFrom (cs.length + 1) .standard false) cs).isSome

end Turnstile.Pattern
