import Turnstile.Json.Printer
import Turnstile.Key.Headers

/-!
Extractors: where the client's key of a request is found. A list of places gives the key of the
first that has one.
-/

namespace Turnstile

/-- The part of a request that a key is derived from. -/
structure KeySource where
  headers : Headers
  body : Option Json

/-- A place where a key is looked for: a header, some members of the body joined by a separator, or
the first of several places. -/
inductive Extractor
  | header (name : String)
  | fields (names : List String) (separator : String)
  | firstOf (members : List Extractor)

namespace Extractor

/-- The name of the header that holds a key unless another is configured. -/
def defaultHeader : String := "Idempotent-Key"

/-- The separator between the parts of a key unless another is configured. -/
def defaultSeparator : String := "_"

/-- The key in a header: its first value, if that is text, without the blanks at its ends. -/
def fromHeader (name : String) (source : KeySource) : Except String String :=
  match source.headers.find? name with
  | none => .error s!"header '{name}' is required"
  | some value =>
    match Headers.asText? value with
    | none => .error s!"header '{name}' is not valid text"
    | some text =>
      let key := Text.trim text
      if key.isEmpty then .error s!"header '{name}' is blank" else .ok key

/-- The part of a key that a value gives: a string without the blanks at its ends, a number or a
truth value; anything else gives nothing. -/
def partOf : Option Json → String
  | some (.string s) => Text.trim s
  | some (.number n) => n.text
  | some (.bool true) => "true"
  | some (.bool false) => "false"
  | _ => ""

/-- The parts of a key, one for each name. -/
def parts (body : Json) : List String → Except String (List String)
  | [] => .ok []
  | name :: names =>
    let part := partOf (body.get? name)
    if part.isEmpty then .error s!"body field '{name}' is required"
    else (parts body names).map (part :: ·)

/-- The key in the body: the parts joined by the separator. -/
def fromFields (names : List String) (separator : String) (source : KeySource) :
    Except String String :=
  match source.body with
  | none => .error "request body is required"
  | some body =>
    if names.isEmpty then .error "no key fields configured"
    else (parts body names).map (separator.intercalate ·)

mutual

/-- The key of a request, or the reason why there is none. -/
def extract : Extractor → KeySource → Except String String
  | .header name, source => fromHeader name source
  | .fields names separator, source => fromFields names separator source
  | .firstOf members, source => extractFirst members [] source

/-- The first key that a member finds; the reasons of those before it are gathered. -/
def extractFirst : List Extractor → List String → KeySource → Except String String
  | [], reasons, _ => .error ("; ".intercalate reasons)
  | member :: rest, reasons, source =>
    match extract member source with
    | .ok key => .ok key
    | .error reason => extractFirst rest (reasons ++ [reason]) source

end

end Extractor

end Turnstile
