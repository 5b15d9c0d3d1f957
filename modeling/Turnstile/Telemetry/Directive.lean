import Turnstile.Telemetry.Pattern
import Turnstile.Text.Blank
import Turnstile.Text.Split

/-!
Directives of a log filter, in the notation `target[span{field=value}]=level`, each part of which
may be missing.
-/

namespace Turnstile

/-- One directive: what it asks of an event, and the level up to which events of that kind pass. -/
structure Directive where
  target : Option String
  span : Option String
  field : Option String
  level : Nat
deriving DecidableEq, Repr

namespace Directive

/-- Why a text is no directive. -/
inductive Fault
  /-- the text does not follow the notation -/
  | refused
  /-- a part of the text begins or ends inside of a character -/
  | torn
deriving DecidableEq, Repr

/-- The level of a name, in any case of its letters, or of a number up to five. -/
def level? (s : String) : Option Nat :=
  let lower := String.ofList (s.toList.map Char.toLower)
  Text.readBelow? 6 s <|>
    [("off", 0), ("error", 1), ("warn", 2), ("info", 3), ("debug", 4), ("trace", 5)].lookup lower

/-- The level of events of the lowest severity. -/
def everything : Nat := 5

/-- The rest of a text behind its first bytes; `none` if they end inside of a character. -/
def dropBytes? : Nat → List Char → Option (List Char)
  | 0, cs => some cs
  | _ + 1, [] => none
  | n + 1, c :: cs => if c.utf8Size ≤ n + 1 then dropBytes? (n + 1 - c.utf8Size) cs else none

/-- The first bytes of a text; `none` if they end inside of a character. -/
def takeBytes? : Nat → List Char → Option (List Char)
  | 0, _ => some []
  | _ + 1, [] => none
  | n + 1, c :: cs =>
    if c.utf8Size ≤ n + 1 then (takeBytes? (n + 1 - c.utf8Size) cs).map (c :: ·) else none

/-- The part of a text from one byte to another. -/
def slice (text : List Char) (start stop : Nat) : Except Fault String :=
  (((dropBytes? start text).bind (takeBytes? (stop - start))).map .ofList).elim (.error .torn) .ok

/-- The part of a text from a byte to its end. -/
def sliceFrom (text : List Char) (start : Nat) : Except Fault String :=
  ((dropBytes? start text).map .ofList).elim (.error .torn) .ok

/-- Whether a text may be asked for as the value of a field: a truth value, a number or a pattern.
-/
def isValue (s : String) : Bool :=
  let unsigned := match s.toList with
    | '+' :: cs => cs
    | cs => cs
  let word := String.ofList (unsigned.map Char.toLower)
  (Text.decimalParts? s.toList).isSome || ["inf", "infinity", "nan"].contains word ||
    Pattern.isPattern s

/-- Whether a field, with the value behind its equals sign, may be asked for. -/
def isField (field : List Char) : Bool :=
  !field.isEmpty && match (Text.splitAt '=' field) with
    | _ :: value :: _ => isValue (.ofList value)
    | _ => true

/-- Where the reading of a directive stands; a part that has begun keeps the byte of its start. -/
inductive Place
  | start
  | word (first : Nat)
  | span (first : Nat)
  | field (first : Nat)
  | fields
  | target
  | level (first : Nat)

/-- Whether a character may start a directive. -/
def startsWord (c : Char) : Bool := Text.isLetterOrNumber c || c = '-' || c = ':' || c = '_'

/-- Reads one character, the one at byte `i`. -/
def step (text : List Char) (d : Directive) (i : Nat) (c : Char) :
    Place → Except Fault (Directive × Place)
  | .start =>
    if c = '[' then .ok (d, .span (i + 1))
    else if startsWord c then .ok (d, .word i)
    else .error .refused
  | .word first =>
    if c = '=' then do return ({ d with target := some (← slice text first i) }, .level (i + 1))
    else if c = '[' then do return ({ d with target := some (← slice text first i) }, .span (i + 1))
    else .ok (d, .word first)
  | .span first =>
    if c = ']' then do return ({ d with span := some (← slice text first i) }, .target)
    else if c = '\x7b' then do
      let name ← slice text first i
      return ({ d with span := if name.isEmpty then none else some name }, .field (i + 1))
    else .ok (d, .span first)
  | .field first =>
    if c = '\x7d' then do
      let field ← slice text first i
      if isField field.toList then return ({ d with field := some field }, .fields)
      else .error .refused
    else .ok (d, .field first)
  | .fields => if c = ']' then .ok (d, .target) else .error .refused
  | .target => if c = '=' then .ok (d, .level (i + 1)) else .error .refused
  | .level first => .ok (d, .level first)

/-- Reads the characters from byte `i` on. -/
def readFrom (text : List Char) (d : Directive) (p : Place) (i : Nat) :
    List Char → Except Fault (Directive × Place)
  | [] => .ok (d, p)
  | c :: cs => do
    let (d, p) ← step text d i c p
    readFrom text d p (i + c.utf8Size) cs

/-- Ends the reading: a single word is a level or else a target, and without a level everything
passes. -/
def finish (text : List Char) (d : Directive) : Place → Except Fault Directive
  | .word first => do
    let word ← sliceFrom text first
    return (level? word).elim { d with target := some word } fun level => { d with level := level }
  | .level first => do
    let word ← sliceFrom text first
    if word.isEmpty then return d
    else (level? word).elim (.error .refused) fun level => .ok { d with level := level }
  | .target => .ok d
  | _ => .error .refused

/-- The directive that a text describes. The places of its parts are counted without the blanks at
its ends, and the parts are cut out of the text with them. -/
def read (s : String) : Except Fault Directive := do
  let (d, p) ← readFrom s.toList ⟨none, none, none, everything⟩ .start 0 (Text.trimChars s.toList)
  finish s.toList d p

/-- The name of the field that an event must have. -/
def fieldName (d : Directive) : Option String :=
  d.field.map fun field => .ofList (field.toList.takeWhile (· ≠ '='))

/-- Whether the directive asks for a value of its field. -/
def hasValue (d : Directive) : Bool := d.field.any (·.toList.contains '=')

/-- Whether the directive can be decided by an event alone: it asks neither for a span nor for the
value of a field. -/
def isStatic (d : Directive) : Bool := d.span.isNone && !d.hasValue

end Directive

end Turnstile
