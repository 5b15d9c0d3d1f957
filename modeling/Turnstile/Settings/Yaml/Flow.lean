import Turnstile.Settings.Yaml.Cursor
import Turnstile.Settings.Yaml.Node

/-!
Nodes of indented documents that do not depend on the indentation of their parts: texts with and
without quotes, and lists and maps in brackets.
-/

namespace Turnstile.Yaml

open Reader

/-! ## Contexts -/

/-- Where a node stands: outside or inside of brackets, and whether it is a key, which stands on one
line. -/
structure Context where
  bracketed : Bool
  key : Bool

namespace Context

/-- The context of a node inside of brackets. -/
def inside (c : Context) : Context := { c with bracketed := true }

end Context

/-- What stands between two parts of a node. -/
def Context.gap (c : Context) (n : Int) : Reader Unit := if c.key then lineGap else Yaml.gap n

/-- Whether a character has a meaning between brackets. -/
def isBracket (c : Char) : Bool := ",[]\x7b\x7d".toList.contains c

/-- Whether a character may stand in a text without quotes, all but `#` and `:` without condition.
-/
def Context.isSafe (c : Context) (ch : Char) : Bool :=
  isVisible ch && !(c.bracketed && isBracket ch)

/-! ## Texts without quotes -/

/-- Whether a character has a meaning of its own where a node begins. -/
def isIndicator (c : Char) : Bool := "-?:,[]\x7b\x7d#&*!|>'\"%@`".toList.contains c

/-- The first character of a text without quotes. -/
def plainFirst (c : Context) : Reader Char := do
  let ch ← next
  if ch = '-' ∨ ch = '?' ∨ ch = ':' then
    expect (·.any c.isSafe)
    return ch
  else if isVisible ch && !isIndicator ch then return ch
  else failure

/-- A further character of a text without quotes. A hash sign must follow a visible character, and a
colon must come before one. -/
def plainChar (c : Context) (behindGap : Bool) : Reader Char := do
  let ch ← next
  if ch = '#' ∧ behindGap then failure
  else if ch = ':' then
    expect (·.any c.isSafe)
    return ch
  else if c.isSafe ch then return ch
  else failure

/-- The characters of a text without quotes up to the last visible one of the line. -/
def plainRun (c : Context) : Reader (List Char) := do
  let pieces ← many do
    let run ← whites
    return run ++ [← plainChar c !run.isEmpty]
  return pieces.flatten

/-- A text without quotes; it may go on on further lines unless it is a key. -/
def plain (n : Int) (c : Context) : Reader String := do
  let first ← plainFirst c
  let run ← plainRun c
  let more ← if c.key then pure [] else many do
    let fold ← fold n
    let first ← plainChar c true
    return fold ++ first :: (← plainRun c)
  return .ofList (first :: run ++ more.flatten)

/-! ## Texts in quotes -/

/-- The character of some digits of base sixteen. -/
def numbered (count : Nat) : Reader Char := do
  let digits ← (List.range count).mapM fun _ => one fun c => (Text.hexValue? c).isSome
  ((Text.hexNumber? digits).bind Text.charOfNumber?).elim failure pure

/-- The escapes of one character. -/
def escapes : List (Char × Char) :=
  [('0', '\x00'), ('a', '\x07'), ('b', '\x08'), ('t', '\t'), ('\t', '\t'), ('n', '\n'),
   ('v', '\x0b'), ('f', '\x0c'), ('r', '\r'), ('e', '\x1b'), (' ', ' '), ('"', '"'), ('/', '/'),
   ('\\', '\\'), ('N', '\u0085'), ('_', '\u00a0'), ('L', '\u2028'), ('P', '\u2029')]

/-- What an escape stands for. -/
def escape : Reader Char := do
  char '\\'
  let c ← next
  if c = 'x' then numbered 2
  else if c = 'u' then numbered 4
  else if c = 'U' then numbered 8
  else (escapes.lookup c).elim failure pure

/-- A line end behind a backslash, which vanishes; the blanks before it count. -/
def joined (n : Int) : Reader (List Char) := do
  let run ← whites
  char '\\'
  char '\n'
  let empty ← many (blankLine n)
  margin n
  return run ++ List.replicate empty.length '\n'

/-- A text in quotes, of pieces within a line and of line ends. -/
def quoted (quote : Char) (lineEnds pieces : Reader (List Char)) (c : Context) :
    Reader String := do
  char quote
  let run ← many (if c.key then pieces else lineEnds <|> pieces)
  char quote
  return .ofList run.flatten

/-- A text in double quotes, with escapes. -/
def doubleQuoted (n : Int) : Context → Reader String :=
  quoted '"' (joined n <|> fold n)
    (do return [← (one fun c => c ≠ '"' && c ≠ '\\' && c ≠ '\n') <|> escape])

/-- A text in single quotes, each of which is written twice inside. -/
def singleQuoted (n : Int) : Context → Reader String :=
  quoted '\'' (fold n)
    ((do return [← one fun c => c ≠ '\'' && c ≠ '\n']) <|>
      (do word ['\'', '\'']; return ['\'']))

/-! ## Properties -/

/-- A tag: one of the common ones, or another. -/
inductive Tag
  | common (name : String)
  | other
deriving DecidableEq, Repr

/-- The properties of a node. -/
structure Properties where
  tag : Option Tag
  anchor : Option String

/-- Whether a character may stand in a tag. -/
def isTagChar (c : Char) : Bool :=
  c.isAlphanum || "-#;/?:@&=+$_.~*'()%".toList.contains c

/-- A tag. -/
def tag : Reader Tag := do
  char '!'
  (do
    char '<'
    let _ ← span1 fun c => isTagChar c || ",![]".toList.contains c
    char '>'
    return .other) <|>
  (do
    char '!'
    return .common (.ofList (← span1 isTagChar))) <|>
  (do
    let _ ← span isTagChar
    expect (· ≠ some '!')
    return .other)

/-- The name behind the mark of an anchor or of a use of it. -/
def anchorName (mark : Char) : Reader String := do
  char mark
  return .ofList (← span1 fun c => isVisible c && !isBracket c)

/-- The properties of a node: a tag, an anchor, or both. -/
def properties (n : Int) (c : Context) : Reader Properties :=
  (do
    let tag ← tag
    return ⟨some tag, ← optional? (c.gap n *> anchorName '&')⟩) <|>
  (do
    let anchor ← anchorName '&'
    return ⟨← optional? (c.gap n *> tag), some anchor⟩)

/-- The node of a text without quotes. -/
def plainNode (tag : Option Tag) (s : String) : Node :=
  .scalar <| match tag with
    | none => .ofPlain s
    | some (.common name) => .ofTagged name s
    | some .other => .text s

/-- The node of a text in quotes, whose tag does not count. -/
def textNode (s : String) : Node := .scalar (.text s)

/-- A node without a text. -/
def nothing : Node := .scalar .nothing

/-- A node with the name of its anchor. -/
def anchored (anchor : Option String) (node : Node) : Node :=
  anchor.elim node fun name => .anchor name node

/-! ## Nodes in brackets -/

/-- A node as it was read: one that is closed by a quote or a bracket may be followed by a colon
directly. -/
structure Found where
  node : Node
  closed : Bool

/-- The colon behind a key. -/
def colon (c : Context) (closed : Bool) : Reader Unit := do
  char ':'
  if !closed then expect fun ch? => !ch?.any c.isSafe

/-- The value behind a colon, which may be missing. -/
def valueAfter (n : Int) (c : Context) (node : Reader Found) (closed : Bool) : Reader Node := do
  let found? ← optional? do
    if closed then
      let _ ← optional? (c.gap n)
    else c.gap n
    node
  return found?.elim nothing (·.node)

/-- A pair without a question mark; its key or its value may be missing. -/
def implicitPair (n : Int) (c : Context) (node : Reader Found) : Reader (Node × Node) :=
  (do
    colon c false
    return (nothing, ← valueAfter n c node false)) <|>
  (do
    let key ← node
    let value? ← optional? do
      let _ ← optional? (c.gap n)
      colon c key.closed
      valueAfter n c node key.closed
    return (key.node, value?.getD nothing))

/-- A pair with a question mark in front. -/
def explicitPair (n : Int) (c : Context) (node : Reader Found) : Reader (Node × Node) := do
  char '?'
  c.gap n
  return (← optional? (implicitPair n c node)).getD (nothing, nothing)

/-- A pair between braces. -/
def mapEntry (n : Int) (c : Context) (node : Reader Found) : Reader (Node × Node) :=
  explicitPair n c node <|> implicitPair n c node

/-- A node between brackets, or a pair, which is a map of its own; the key of a pair without a
question mark stands on one line. -/
def listEntry (n : Int) (c : Context) (node : Reader Found) : Reader Node :=
  (do return .map [← explicitPair n c node]) <|>
  (do
    colon c false
    return .map [(nothing, ← valueAfter n c node false)]) <|>
  (do
    let before ← rest
    let found ← node
    let written := before.take (before.length - (← rest).length)
    let value? ← optional? do
      if written.contains '\n' then failure
      let _ ← whites
      colon c found.closed
      valueAfter n c node found.closed
    return value?.elim found.node fun value => .map [(found.node, value)])

/-- Items between brackets with commas between them; a comma may follow the last. -/
def items {α : Type} (opening closing : Char) (n : Int) (c : Context) (item : Reader α) :
    Reader (List α) := do
  char opening
  let _ ← optional? (c.gap n)
  let found ← many do
    let a ← item
    let _ ← optional? (c.gap n)
    (char ',' *> (do let _ ← optional? (c.gap n))) <|> expect (· = some closing)
    return a
  char closing
  return found

/-- A list or a map in brackets, whose nodes are read by a reader. -/
def collection (n : Int) (c : Context) (node : Reader Found) : Reader Node :=
  (do return .list (← items '[' ']' n c.inside (listEntry n c.inside node))) <|>
  (do return .map (← items '\x7b' '\x7d' n c.inside (mapEntry n c.inside node)))

/-- A node without its properties: what it is for its tag, and whether it is closed. -/
def content (n : Int) (c : Context) (node : Reader Found) :
    Reader ((Option Tag → Node) × Bool) :=
  (do
    let s ← doubleQuoted n c <|> singleQuoted n c
    return (fun _ => textNode s, true)) <|>
  (do
    let found ← collection n c node
    return (fun _ => found, true)) <|>
  (do
    let s ← plain n c
    return (fun tag => plainNode tag s, false))

/-- A node with fewer than `depth` brackets around its parts: a name of a node before it, or a
content with properties, of which one may be missing. -/
def flowNode (n : Int) : Nat → Context → Cursor → Option (Found × Cursor)
  | 0, _, _ => none
  | depth + 1, c, place =>
    let content := content n c (flowNode n depth c.inside)
    let node : Reader Found :=
      (do return ⟨.alias (← anchorName '*'), false⟩) <|>
      (do
        let p ← properties n c
        let (make, closed) := (← optional? (c.gap n *> content)).getD
          ((plainNode · ""), false)
        return ⟨anchored p.anchor (make p.tag), closed⟩) <|>
      (do
        let (make, closed) ← content
        return ⟨make none, closed⟩)
    node place

end Turnstile.Yaml
