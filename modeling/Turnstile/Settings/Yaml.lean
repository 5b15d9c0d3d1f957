import Turnstile.Settings.Yaml.Block

/-!
Reading of settings files in YAML. A file holds one document at most.
-/

namespace Turnstile.Yaml

open Reader

/-! ## Documents -/

/-- The marks that begin and end documents, each on a line of its own or before a blank. -/
def documentMark? (line : List Char) : Option Char :=
  if (line.drop 3).head?.all isWhite then
    if line.take 3 = ['-', '-', '-'] then some '-'
    else if line.take 3 = ['.', '.', '.'] then some '.'
    else none
  else none

/-- Whether a line holds blanks and a comment, each of which may be missing. -/
def isEmptyLine (line : List Char) : Bool :=
  match line.dropWhile isWhite with
  | [] => true
  | c :: _ => c = '#'

/-- How far the reading of the lines of a file has come: before its document, behind instructions
to the reader, inside of the document, or behind its end. -/
inductive Stage
  | before
  | instructed
  | inside (marked : Bool) (lines : List (List Char))
  | behind (marked : Bool) (lines : List (List Char))

/-- Takes in a line. A second document is refused. -/
def Stage.line? (stage : Stage) (line : List Char) : Option Stage :=
  let mark := documentMark? line
  match stage with
  | .before =>
    if mark = some '-' then some (.inside true [line.drop 3])
    else if mark = some '.' then if isEmptyLine (line.drop 3) then some .before else none
    else if isEmptyLine line then some .before
    else if line.head? = some '%' then some .instructed
    else some (.inside false [line])
  | .instructed =>
    if mark = some '-' then some (.inside true [line.drop 3])
    else if isEmptyLine line || line.head? = some '%' then some .instructed
    else none
  | .inside marked lines =>
    if mark = some '-' then none
    else if mark = some '.' then
      if isEmptyLine (line.drop 3) then some (.behind marked lines) else none
    else some (.inside marked (lines ++ [line]))
  | .behind marked lines =>
    if isEmptyLine line then some stage
    else if mark = some '.' && isEmptyLine (line.drop 3) then some (.behind marked lines)
    else none

/-- The lines of the document of a file, and whether a mark begins it; a file may hold no
document. -/
def documentOf (lines : List (List Char)) : Option (Option (Bool × List (List Char))) :=
  (lines.foldlM Stage.line? .before).bind fun
    | .before => some none
    | .instructed => none
    | .inside marked lines => some (some (marked, lines))
    | .behind marked lines => some (some (marked, lines ++ [[]]))

/-- The node of a document. -/
def nodeOf? (marked : Bool) (lines : List (List Char)) : Option Node :=
  let cs := Text.joinLines lines
  let document : Reader Node := do
    let node ← blockNode (cs.length + 1) false (-1) .item
    let _ ← many emptyLine
    if (← rest).isEmpty then return node else failure
  (document ⟨cs, !marked⟩).bind fun (node, _) => (node.resolve []).map (·.1)

/-- Why a file cannot be read. -/
inductive Error
  /-- the file does not follow the notation, or holds something else than a map -/
  | malformed
  | unfit (fault : Node.Fault)
deriving DecidableEq, Repr

/-- The entries that a file describes. -/
def read (s : String) : Except Error (List (String × Setting)) :=
  match documentOf (Text.linesOf (Text.unifyLineEnds s.toList)) with
  | none => .error .malformed
  | some none => .ok []
  | some (some (marked, lines)) =>
    match nodeOf? marked lines with
    | none => .error .malformed
    | some node =>
      match node.toSetting with
      | .ok (.table entries) => .ok entries
      | .ok _ => .error .malformed
      | .error fault => .error (.unfit fault)

end Turnstile.Yaml
