import Turnstile.Shop.Violation

/-!
Payments and refunds.
-/

namespace Turnstile.Shop

/-- A request to take a payment. -/
structure PaymentRequest where
  amount : Decimal
  currency : String
  description : Option String

namespace PaymentRequest

/-- Reads a request. -/
def decoder : Json.Decoder PaymentRequest :=
  Json.Fields.decode <|
    PaymentRequest.mk <$> .required "amount" Shop.amount <*> .required "currency" .string
      <*> .optional "description" .string

/-- The request as JSON. -/
def toJson (r : PaymentRequest) : Json :=
  .ofMembers [("amount", amountJson r.amount), ("currency", .string r.currency),
    ("description", .ofOption r.description)]

/-- The rules that the request breaks. A currency has three bytes. -/
def violations (r : PaymentRequest) : List Violation :=
  violated (!r.amount.isPositive) "amount" "amount must be positive" ++
  violated (r.currency.utf8ByteSize ≠ 3) "currency" "currency must be a 3-letter ISO 4217 code"

end PaymentRequest

/-- The receipt of a payment. -/
structure PaymentReceipt where
  transactionId : String
  amount : Decimal
  currency : String
  status : String
  processedAt : Instant

namespace PaymentReceipt

/-- The receipt as JSON. -/
def toJson (r : PaymentReceipt) : Json :=
  .ofMembers [("transactionId", .string r.transactionId), ("amount", amountJson r.amount),
    ("currency", .string r.currency), ("status", .string r.status),
    ("processedAt", stampJson r.processedAt)]

/-- Reads a receipt. -/
def decoder : Json.Decoder PaymentReceipt :=
  Json.Fields.decode <|
    PaymentReceipt.mk <$> .required "transactionId" .string <*> .required "amount" Shop.amount
      <*> .required "currency" .string <*> .required "status" .string
      <*> .required "processedAt" stamp

end PaymentReceipt

/-- A request to refund a payment. -/
structure RefundRequest where
  transactionId : String
  amount : Decimal
  reason : Option String

namespace RefundRequest

/-- Reads a request. -/
def decoder : Json.Decoder RefundRequest :=
  Json.Fields.decode <|
    RefundRequest.mk <$> .required "transactionId" .string <*> .required "amount" Shop.amount
      <*> .optional "reason" .string

/-- The request as JSON. -/
def toJson (r : RefundRequest) : Json :=
  .ofMembers [("transactionId", .string r.transactionId), ("amount", amountJson r.amount),
    ("reason", .ofOption r.reason)]

/-- The rules that the request breaks. -/
def violations (r : RefundRequest) : List Violation :=
  violated (Text.allBlank r.transactionId) "transactionId" "transactionId cannot be empty" ++
  violated (!r.amount.isPositive) "amount" "amount must be positive"

end RefundRequest

/-- The receipt of a refund. -/
structure RefundReceipt where
  refundId : String
  transactionId : String
  amount : Decimal
  status : String
  refundedAt : Instant

namespace RefundReceipt

/-- The receipt as JSON. -/
def toJson (r : RefundReceipt) : Json :=
  .ofMembers [("refundId", .string r.refundId), ("transactionId", .string r.transactionId),
    ("amount", amountJson r.amount), ("status", .string r.status),
    ("refundedAt", stampJson r.refundedAt)]

/-- Reads a receipt. -/
def decoder : Json.Decoder RefundReceipt :=
  Json.Fields.decode <|
    RefundReceipt.mk <$> .required "refundId" .string <*> .required "transactionId" .string
      <*> .required "amount" Shop.amount <*> .required "status" .string
      <*> .required "refundedAt" stamp

end RefundReceipt

end Turnstile.Shop
