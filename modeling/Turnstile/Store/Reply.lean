import Turnstile.Text.Blank
import Turnstile.Text.Numeral

/-!
Replies of a server of hashes, and how a client reads them. A reply is a status, an error, an
integer, a text that may be missing, or a list that may be missing; an error inside a list counts as
an error.
-/

namespace Turnstile

/-- A reply; `raw` is one whose bytes are no text, and `closed` stands for a connection that ends
without one. -/
inductive Reply
  | status (text : String)
  | error (text : String)
  | integer (value : Int)
  | bulk (text : Option String)
  | raw
  | list (items : Option (List Reply))
  | closed

namespace Reply

mutual

/-- The error in a reply, if there is one. -/
def error? : Reply → Option String
  | .error text => some text
  | .closed => some "the connection was closed"
  | .list (some items) => errorIn? items
  | _ => none

/-- The first error among replies. -/
def errorIn? : List Reply → Option String
  | [] => none
  | r :: rest => (error? r).orElse fun _ => errorIn? rest

end

/-- The text of a status or of a text that is there. -/
def text? : Reply → Option String
  | .status text => some text
  | .bulk (some text) => some text
  | _ => none

/-- A list of texts; a missing list is empty and a single text is a list of one. -/
def texts? : Reply → Option (List String)
  | .bulk none | .list none => some []
  | .bulk (some text) => some [text]
  | .list (some items) => items.mapM text?
  | _ => none

/-- The pairs of a list; the last item of an odd list is left out. -/
def pairUp : List String → List (String × String)
  | name :: value :: rest => (name, value) :: pairUp rest
  | _ => []

/-- A list of pairs of texts; a missing list is empty and an odd one is refused. -/
def pairs? : Reply → Option (List (String × String))
  | .bulk none | .list none => some []
  | .list (some items) => if items.length % 2 = 0 then (items.mapM text?).map pairUp else none
  | _ => none

/-- An integer, or a text that is the numeral of one. -/
def integer? : Reply → Option Int
  | .integer value => some value
  | r => (text? r).bind (Text.readSigned? 64)

/-- Whether the server does not know the script that was called by its hash. -/
def isUnknownScript (r : Reply) : Bool :=
  r.error?.any fun text => text.toList.takeWhile (· ≠ ' ') = "NOSCRIPT".toList

/-! ## Reading -/

/-- The bytes before the next line end and those behind it. -/
def line? : List UInt8 → Option (List UInt8 × List UInt8)
  | 13 :: 10 :: rest => some ([], rest)
  | b :: rest => (line? rest).map fun (line, rest) => (b :: line, rest)
  | [] => none

/-- Bytes as text. -/
def decode? (bytes : List UInt8) : Option String := String.fromUTF8? ⟨bytes.toArray⟩

/-- The integer on a line, blanks around it aside. -/
def number? (line : List UInt8) : Option Int :=
  (decode? line).bind fun text => Text.readSigned? 64 (Text.trim text)

/-- The bytes behind a line end. -/
def afterLineEnd? : List UInt8 → Option (List UInt8)
  | 13 :: 10 :: rest => some rest
  | _ => none

/-- How many lists may stand inside each other. -/
def maxDepth : Nat := 100

mutual

/-- Reads a reply from its bytes, with at most `depth` lists inside each other; the fuel is more
than the number of replies. -/
def readBytes? : Nat → Nat → List UInt8 → Option (Reply × List UInt8)
  | 0, _, _ => none
  | _, _, [] => none
  | fuel + 1, depth, kind :: bytes =>
    (line? bytes).bind fun (line, rest) =>
      if kind = '+'.toUInt8 then (decode? line).map fun text => (.status text, rest)
      else if kind = '-'.toUInt8 then (decode? line).map fun text => (.error text, rest)
      else if kind = ':'.toUInt8 then (number? line).map fun n => (.integer n, rest)
      else if kind = '$'.toUInt8 then
        (number? line).bind fun n =>
          if n < 0 then some (.bulk none, rest)
          else if rest.length < n.toNat then none
          else (afterLineEnd? (rest.drop n.toNat)).map fun after =>
            ((decode? (rest.take n.toNat)).elim .raw fun text => .bulk (some text), after)
      else if kind = '*'.toUInt8 then
        match depth with
        | 0 => none
        | depth + 1 =>
          (number? line).bind fun n =>
            if n < 0 then some (.list none, rest)
            else
              (readMany? fuel depth n.toNat rest).map fun (items, after) =>
                (.list (some items), after)
      else none

/-- Reads a number of replies. Only the last of them can be an error. -/
def readMany? : Nat → Nat → Nat → List UInt8 → Option (List Reply × List UInt8)
  | _, _, 0, bytes => some ([], bytes)
  | 0, _, _, _ => none
  | fuel + 1, depth, count + 1, bytes =>
    (readBytes? fuel depth bytes).bind fun (r, rest) =>
      if r.error?.isSome && count ≠ 0 then none
      else (readMany? fuel depth count rest).map fun (items, rest) => (r :: items, rest)

end

/-- The reply in a text; a text without a whole reply stands for a closed connection. -/
def ofText (s : String) : Reply :=
  let bytes := s.toUTF8.toList
  match readBytes? (2 * bytes.length + 2) maxDepth bytes with
  | some (r, _) => r
  | none => .closed

end Reply

end Turnstile
