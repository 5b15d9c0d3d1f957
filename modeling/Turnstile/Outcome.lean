import Turnstile.Json.Decode
import Turnstile.Json.Printer

/-!
Outcomes: what a guarded operation answers, and what is replayed to its repeats.
-/

namespace Turnstile

/-- A status code and a payload; the payload null stands for an empty body. -/
structure Outcome where
  status : UInt16
  payload : Json

namespace Outcome

/-- An outcome without a body. -/
def empty (status : UInt16) : Outcome := ⟨status, .null⟩

/-- The outcome with a typed body. -/
def ofBody {α : Type} (encode : α → Json) (status : UInt16) (body : α) : Outcome :=
  ⟨status, encode body⟩

/-- The typed body of an outcome. -/
def body {α : Type} (decode : Json.Decoder α) (o : Outcome) : Except Misread α :=
  decode.decodeJson o.payload

/-- Whether there is a body to send. -/
def hasBody (o : Outcome) : Bool := !o.payload.isNull

/-- The outcome as JSON. -/
def toJson (o : Outcome) : Json :=
  .ofMembers [("status_code", .nat o.status.toNat), ("payload", o.payload)]

/-- Reads a status code. -/
def statusDecoder : Json.Decoder UInt16 := fun w =>
  (Json.Decoder.natBelow 65536 w).map UInt16.ofNat

/-- Reads an outcome. -/
def decoder : Json.Decoder Outcome :=
  Json.Fields.decode <|
    Outcome.mk <$> .required "status_code" statusDecoder <*> .required "payload" Json.Decoder.json

end Outcome

end Turnstile
