import Turnstile.Text.Split

/-!
Places in an indented document and what stands between its parts: blanks, comments, line ends and
indentation.
-/

namespace Turnstile.Yaml

/-- A place in a text: what follows, and whether a line begins there. -/
structure Cursor where
  rest : List Char
  lineBegins : Bool

/-- A reader of a part of a text from a place on. -/
abbrev Reader (α : Type) := StateT Cursor Option α

namespace Reader

variable {α : Type}

/-! ## Characters -/

/-- What follows. -/
def rest : Reader (List Char) := return (← get).rest

/-- The next character. -/
def next : Reader Char := fun p =>
  match p.rest with
  | c :: cs => some (c, ⟨cs, c = '\n'⟩)
  | [] => none

/-- The next character, if it is one of some kind. -/
def one (p : Char → Bool) : Reader Char := do
  let c ← next
  if p c then return c else failure

/-- A character. -/
def char (c : Char) : Reader Unit := do let _ ← one (· = c)

/-- A word. -/
def word (w : List Char) : Reader Unit := w.forM char

/-- The longest run of characters of some kind within a line. -/
def span (p : Char → Bool) : Reader (List Char) := fun place =>
  let run := place.rest.takeWhile fun c => p c && c ≠ '\n'
  some (run, ⟨place.rest.drop run.length, place.lineBegins && run.isEmpty⟩)

/-- The longest run of characters of some kind within a line, of which there is at least one. -/
def span1 (p : Char → Bool) : Reader (List Char) := do
  let run ← span p
  if run.isEmpty then failure else return run

/-- A part that may be missing. -/
def optional? (r : Reader α) : Reader (Option α) := (some <$> r) <|> pure none

/-- At most `count` parts one after the other, as many as there are. -/
def upTo (r : Reader α) : Nat → Reader (List α)
  | 0 => pure []
  | count + 1 => (do return (← r) :: (← upTo r count)) <|> pure []

/-- Parts one after the other, as many as there are. -/
def many (r : Reader α) : Reader (List α) := do upTo r (← rest).length

/-- Parts one after the other, of which there is at least one. -/
def many1 (r : Reader α) : Reader (List α) := do return (← r) :: (← many r)

/-- Looks at the next character without taking it; `none` at the end of the text. -/
def expect (p : Option Char → Bool) : Reader Unit := do
  if p (← rest).head? then return else failure

end Reader

open Reader

/-! ## Between the parts -/

/-- Whether a character is a blank. -/
def isWhite (c : Char) : Bool := c = ' ' || c = '\t'

/-- Whether a character is seen: neither a blank nor a line end. -/
def isVisible (c : Char) : Bool := !isWhite c && c ≠ '\n' && c ≠ '\ufeff'

/-- Blanks, which may be missing. -/
def whites : Reader (List Char) := span isWhite

/-- Blanks within a line, which may be missing where it begins. -/
def lineGap : Reader Unit := do
  let lineBegins := (← get).lineBegins
  let run ← whites
  if run.isEmpty && !lineBegins then failure

/-- A comment up to the end of its line. -/
def comment : Reader Unit := do
  char '#'
  let _ ← span fun _ => true

/-- The end of a line or of the text. -/
def lineEnd : Reader Unit := do
  if (← rest).isEmpty then return else char '\n'

/-- What may stand behind the last part of a line, with its end. -/
def closing : Reader Unit := do
  if (← optional? lineGap).isSome then
    let _ ← optional? comment
  lineEnd

/-- A line without parts. -/
def emptyLine : Reader Unit := do
  if (← rest).isEmpty then failure
  let _ ← whites
  let _ ← optional? comment
  lineEnd

/-- The end of a line and lines without parts; nothing where a line begins. -/
def closings : Reader Unit := do
  let lineBegins := (← get).lineBegins
  closing <|> (if lineBegins then pure () else failure)
  let _ ← many emptyLine

/-- The spaces of an indentation. -/
def indent (n : Int) : Reader Unit := word (List.replicate n.toNat ' ')

/-- The blanks that begin a line of a text or of a part between brackets. -/
def margin (n : Int) : Reader Unit := do
  indent n
  let _ ← whites

/-- What stands between two parts that may stand on lines of their own. -/
def gap (n : Int) : Reader Unit := (closings *> margin n) <|> lineGap

/-- A line of blanks inside of a text. -/
def blankLine (n : Int) : Reader Unit :=
  (margin n <|> (do let _ ← span (· = ' '))) *> char '\n'

/-- A line end inside of a text, which counts as a blank; if empty lines follow, these count
instead. -/
def fold (n : Int) : Reader (List Char) := do
  let _ ← whites
  char '\n'
  let empty ← many (blankLine n)
  margin n
  return if empty.isEmpty then [' '] else List.replicate empty.length '\n'

/-- The number of spaces that follow. -/
def indentation : Reader Nat := return ((← rest).takeWhile (· = ' ')).length

end Turnstile.Yaml
