import Turnstile.Settings.Toml.Scalar
import Turnstile.Settings.Toml.Tree

/-!
Reading of settings files in the notation of tables and keys: headers in brackets, pairs of a key
and a value, comments behind a hash sign.
-/

namespace Turnstile.Toml

open Text Text.Reader

/-! ## Values -/

/-- Blanks, line ends and comments. -/
def gap : Reader Unit := do
  let _ ← many ((do let _ ← span1 isSpace) <|> lineEnd <|> (comment *> lineEnd))

/-- The items of an array; a comma may follow the last. -/
def array (item : Reader Setting) : Reader Setting := do
  char '['
  let items ← separated (gap *> item <* gap) (char ',')
  if !items.isEmpty then
    let _ ← optional? (char ',')
  gap
  char ']'
  return .list items

/-- A key, an equals sign and a value. -/
def pair (value : Reader Setting) : Reader (List String × Setting) := do
  let path ← path
  char '='
  spaces
  return (path, ← value)

/-- A table between braces, on one line. -/
def inlineTable (value : Reader Setting) : Reader Setting := do
  char '\x7b'
  let pairs ← separated (pair value <* spaces) (char ',')
  spaces
  char '\x7d'
  match pairs.foldlM (fun entries (path, value) => insert value path entries) [] with
  | some entries => return .table (settingsOf entries)
  | none => failure

/-- A value with at most `depth` arrays and tables inside each other. -/
def value : Nat → Reader Setting
  | 0 => .text <$> text <|> scalar
  | depth + 1 =>
    .text <$> text <|> array (value depth) <|> inlineTable (value depth) <|> scalar

/-! ## Files -/

/-- A line of a file. -/
inductive Line
  | empty
  | table (path : List String)
  | tables (path : List String)
  | pair (path : List String) (value : Setting)

/-- A pair, or a header in one or two brackets. -/
def content : Reader Line :=
  (do
    word ['[', '[']
    let path ← path
    word [']', ']']
    return .tables path) <|>
  (do
    char '['
    let path ← path
    char ']'
    return .table path) <|>
  (do
    let (path, value) ← pair (value (nestingLimit - 1))
    return .pair path value)

/-- The end of a line or of the file, with a comment that may stand before it. -/
def closing : Reader Unit := do
  spaces
  let _ ← optional? comment
  lineEnd <|> atEnd

/-- One line with its end. -/
def line : Reader Line := do
  let cs ← rest
  if cs.isEmpty then failure
  let content? ← optional? content
  closing
  return content?.getD .empty

/-- The lines of a file, which may begin with a mark of its byte order. -/
def lines : Reader (List Line) := do
  let _ ← optional? (char '\ufeff')
  many (spaces *> line)

/-- What has been made of the lines so far: all entries, and the path of the table that is open. -/
structure Progress where
  entries : Entries
  opened : List String

/-- Opens a table by the last key of a path. -/
def Progress.header? (p : Progress) (path : List String)
    (make : String → Entries → Option Entries) : Option Progress :=
  path.getLast?.bind fun key =>
    (descend (make key) path.dropLast p.entries).map fun entries => ⟨entries, path⟩

/-- Takes in a line. -/
def Progress.line? (p : Progress) : Line → Option Progress
  | .empty => some p
  | .table path => p.header? path openTable
  | .tables path => p.header? path appendTable
  | .pair path value =>
    (descend (insert value path) p.opened p.entries).map fun entries => ⟨entries, p.opened⟩

/-- The entries that a file describes. -/
def read? (s : String) : Option (List (String × Setting)) :=
  (whole? (lines <* spaces) s.toList).bind fun lines =>
    (lines.foldlM Progress.line? ⟨[], []⟩).map fun p => settingsOf p.entries

end Turnstile.Toml
