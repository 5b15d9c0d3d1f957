import Turnstile.Shop.Violation

/-!
Subscriptions to the newsletter.
-/

namespace Turnstile.Shop

/-- A request to subscribe. -/
structure SubscribeRequest where
  email : String
  name : Option String

namespace SubscribeRequest

/-- Reads a request. -/
def decoder : Json.Decoder SubscribeRequest :=
  Json.Fields.decode <|
    SubscribeRequest.mk <$> .required "email" .string <*> .optional "name" .string

/-- The request as JSON. -/
def toJson (r : SubscribeRequest) : Json :=
  .ofMembers [("email", .string r.email), ("name", .ofOption r.name)]

/-- The rules that the request breaks: an address is not blank and contains an at sign. -/
def violations (r : SubscribeRequest) : List Violation :=
  violated (Text.allBlank r.email || !r.email.toList.contains '@') "email"
    "email must be a valid address"

end SubscribeRequest

end Turnstile.Shop
