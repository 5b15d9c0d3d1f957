import Turnstile.Json.Decode
import Turnstile.Json.Printer
import Turnstile.Number.Decimal.Reading
import Turnstile.Text.Blank
import Turnstile.Time.Stamp

/-!
What the bodies of the shop have in common: the rules that a request breaks, and the values that
requests and receipts are made of.
-/

namespace Turnstile.Shop

/-- A rule that a request breaks: the field and what is wrong with it. -/
structure Violation where
  field : String
  message : String
deriving DecidableEq, Repr

/-- The violation of a rule, if the rule is broken. -/
def violated (broken : Bool) (field message : String) : List Violation :=
  if broken then [⟨field, message⟩] else []

/-- A violation as JSON. -/
def Violation.toJson (v : Violation) : Json :=
  .ofMembers [("field", .string v.field), ("message", .string v.message)]

/-- Reads a violation. -/
def Violation.decoder : Json.Decoder Violation :=
  Json.Fields.decode <| Violation.mk <$> .required "field" .string <*> .required "message" .string

/-- An amount as JSON: its text, which keeps the scale. -/
def amountJson (d : Decimal) : Json := .string d.text

/-- Reads an amount from a text or from a number. -/
def amount : Json.Decoder Decimal
  | .string s => (Decimal.read? s).elim (.error .mismatch) .ok
  | .number (.int i) => (Decimal.ofInt? i).elim (.error .mismatch) .ok
  | .number (.double d) => (Decimal.ofDouble? d).elim (.error .mismatch) .ok
  | w => Json.Decoder.refuse w

/-- A time as JSON. -/
def stampJson (t : Instant) : Json := .string (Stamp.write t)

/-- Reads a time. -/
def stamp : Json.Decoder Instant := .parsed Stamp.read?

end Turnstile.Shop
