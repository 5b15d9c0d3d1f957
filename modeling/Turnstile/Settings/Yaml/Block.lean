import Turnstile.Settings.Yaml.Flow

/-!
Nodes of indented documents that are told apart by the indentation of their lines: texts behind a
bar or an angle bracket, lists behind hyphens, and maps.
-/

namespace Turnstile.Yaml

open Reader

/-! ## Texts of lines -/

/-- What becomes of the line ends at the end of a text: none is kept, one, or all of them. -/
inductive Chomp
  | strip
  | clip
  | keep
deriving DecidableEq, Repr

/-- A text with its last line ends, of which `empty` belong to empty lines. -/
def Chomp.finish (chomp : Chomp) (cs : List Char) (empty : Nat) : List Char :=
  match chomp with
  | .strip => cs
  | .clip => if cs.isEmpty then [] else cs ++ ['\n']
  | .keep => if cs.isEmpty then List.replicate empty '\n' else cs ++ List.replicate (empty + 1) '\n'

/-- Whether a line begins with a blank. -/
def isSpaced (line : List Char) : Bool := line.head?.any isWhite

/-- The lines behind one with lines folded: a line end counts as a blank, and empty lines count as
line ends, but around a line that begins with a blank all line ends count. -/
def foldFrom (spaced : Bool) (empty : Nat) : List (List Char) → List Char
  | [] => []
  | line :: lines =>
    if line.isEmpty then foldFrom spaced (empty + 1) lines
    else
      let ends :=
        if spaced || isSpaced line then List.replicate (empty + 1) '\n'
        else if empty = 0 then [' ']
        else List.replicate empty '\n'
      ends ++ line ++ foldFrom (isSpaced line) 0 lines

/-- The text of some lines that are folded. -/
def foldLines : List (List Char) → List Char
  | [] => []
  | line :: lines =>
    if line.isEmpty then '\n' :: foldLines lines else line ++ foldFrom (isSpaced line) 0 lines

/-- The number of spaces that begin a line. -/
def depthOf (line : List Char) : Nat := (line.takeWhile (· = ' ')).length

/-- Whether a line holds spaces only. -/
def isOfSpaces (line : List Char) : Bool := line.all (· = ' ')

/-- The indentation of the lines of a text: that of the first line with more than spaces, which
lines before it must not exceed. -/
def detectDepth? (least : Nat) (lines : List (List Char)) : Option Nat :=
  let before := lines.takeWhile isOfSpaces
  let longest := (before.map List.length).foldl max 0
  match lines.drop before.length with
  | line :: _ =>
    if least ≤ depthOf line then
      if longest ≤ depthOf line then some (depthOf line) else none
    else some (max least longest)
  | [] => some (max least longest)

/-- What stands behind the mark of a text of lines: an indentation and what becomes of its last line
ends, in either order. -/
def header : Reader (Option Nat × Chomp) := do
  let depth := optional? do
    let c ← one fun c => '1' ≤ c && c ≤ '9'
    return c.toNat - 48
  let chomp : Reader (Option Chomp) := optional? do
    if (← one fun c => c = '+' || c = '-') = '+' then return .keep else return .strip
  let first ← depth
  let chomp ← chomp
  let second ← if first.isSome then pure none else depth
  return (first <|> second, chomp.getD .clip)

/-- A text of lines that are indented by more than `n`. -/
def lineText (n : Int) : Reader String := do
  let mark ← one fun c => c = '|' || c = '>'
  let (depth?, chomp) ← header
  closing
  let all := Text.linesOf (← rest)
  let lines := if all.getLast? = some [] then all.dropLast else all
  let depth? := match depth? with
    | some depth => some (n.toNat + depth)
    | none => detectDepth? (n + 1).toNat lines
  match depth? with
  | none => failure
  | some depth =>
    let own := lines.takeWhile fun line => depth ≤ depthOf line || isOfSpaces line
    set (⟨Text.joinLines (all.drop own.length), true⟩ : Cursor)
    let texts := own.map (List.drop depth)
    let empty := (texts.reverse.takeWhile List.isEmpty).length
    let body := texts.take (texts.length - empty)
    let text := if mark = '|' then Text.joinLines body else foldLines body
    return .ofList (chomp.finish text empty)

/-! ## Nodes -/

/-- Where a node of lines stands: as an item of a list, or as a part of a map, whose lists need not
be indented. -/
inductive Place
  | item
  | part
deriving DecidableEq, Repr

/-- The context of nodes outside of brackets. -/
def outside : Context := ⟨false, false⟩

/-- A mark behind which a node stands. -/
def nodeMark (c : Char) : Reader Unit := do
  char c
  expect fun ch? => !ch?.any isVisible

/-- A node in brackets, in quotes, or without quotes, with the end of its line. -/
def inlineNode (n : Int) : Reader Node := do
  gap (n + 1)
  let length := (← rest).length
  let found ← flowNode (n + 1) (length + 1) outside
  closings
  return found.node

/-- A text of lines with its properties. -/
def lineTextNode (n : Int) : Reader Node := do
  gap (n + 1)
  let p? ← optional? do
    let p ← properties (n + 1) outside
    gap (n + 1)
    return p
  let s ← lineText n
  let _ ← many emptyLine
  return anchored (p?.bind (·.anchor)) (textNode s)

/-- The items of a list from its first hyphen on. -/
def listItems (n : Nat) (item : Reader Node) : Reader Node := do
  let entry := nodeMark '-' *> item
  let first ← entry
  return .list (first :: (← many (indent n *> entry)))

/-- The key of a pair on one line. -/
def lineKey : Reader Node := do
  let length := (← rest).length
  let found? ← optional? (flowNode 0 (length + 1) ⟨false, true⟩)
  let _ ← whites
  return found?.elim nothing (·.node)

/-- A pair of a map whose parts are indented by `n`, each behind a mark of its own, or with a key on
one line. -/
def pair (n : Nat) (part : Reader Node) (value : Reader Node) : Reader (Node × Node) :=
  (do
    nodeMark '?'
    let key ← part
    let value? ← optional? (indent n *> nodeMark ':' *> part)
    return (key, value?.getD nothing)) <|>
  (do
    let key ← lineKey
    char ':'
    return (key, ← value))

/-- The pairs of a map from its first key on. -/
def mapPairs (n : Nat) (part value : Reader Node) : Reader Node := do
  let first ← pair n part value
  return .map (first :: (← many (indent n *> pair n part value)))

/-- A node that is indented by more than `n`, with fewer than `depth` lists and maps around its
parts; it may be missing at the end of a line. Behind a mark of its own it may be a list or a map
that begins on the same line. -/
def blockNode : Nat → (marked : Bool) → Int → Place → Cursor → Option (Node × Cursor)
  | 0, _, _, _, _ => none
  | depth + 1, marked, n, place, cursor =>
    let list (k : Nat) : Reader Node := listItems k (blockNode depth true k .item)
    let map (k : Nat) : Reader Node :=
      mapPairs k (blockNode depth true k .part) (blockNode depth false k .part)
    let onSameLine : Reader Node := do
      if !marked then failure
      let m ← indentation
      indent m
      let k := (n + 1).toNat + m
      list k <|> map k
    let onNextLines : Reader Node := do
      let k ← indentation
      indent k
      let least := if place = .part then n else n + 1
      (do if (k : Int) < least then failure else list k) <|>
        (do if (k : Int) ≤ n then failure else map k)
    let node : Reader Node :=
      onSameLine <|>
      lineTextNode n <|>
      (do
        gap (n + 1)
        let p ← properties (n + 1) outside
        closings
        return anchored p.anchor (← onNextLines)) <|>
      (closings *> onNextLines) <|>
      inlineNode n <|>
      (do closings; return nothing)
    node cursor

end Turnstile.Yaml
