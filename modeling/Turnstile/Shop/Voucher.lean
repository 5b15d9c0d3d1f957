import Turnstile.Shop.Violation

/-!
Vouchers.
-/

namespace Turnstile.Shop

/-- A request to redeem a voucher. -/
structure VoucherRequest where
  voucherCode : String
  userId : String

namespace VoucherRequest

/-- Reads a request. -/
def decoder : Json.Decoder VoucherRequest :=
  Json.Fields.decode <|
    VoucherRequest.mk <$> .required "voucherCode" .string <*> .required "userId" .string

/-- The request as JSON. -/
def toJson (r : VoucherRequest) : Json :=
  .ofMembers [("voucherCode", .string r.voucherCode), ("userId", .string r.userId)]

/-- The rules that the request breaks. -/
def violations (r : VoucherRequest) : List Violation :=
  violated (Text.allBlank r.voucherCode) "voucherCode" "voucherCode cannot be empty" ++
  violated (Text.allBlank r.userId) "userId" "userId cannot be empty"

end VoucherRequest

/-- The receipt of a redemption. -/
structure VoucherReceipt where
  redemptionId : String
  voucherCode : String
  userId : String
  redeemedAt : Instant

namespace VoucherReceipt

/-- The receipt as JSON. -/
def toJson (r : VoucherReceipt) : Json :=
  .ofMembers [("redemptionId", .string r.redemptionId), ("voucherCode", .string r.voucherCode),
    ("userId", .string r.userId), ("redeemedAt", stampJson r.redeemedAt)]

/-- Reads a receipt. -/
def decoder : Json.Decoder VoucherReceipt :=
  Json.Fields.decode <|
    VoucherReceipt.mk <$> .required "redemptionId" .string <*> .required "voucherCode" .string
      <*> .required "userId" .string <*> .required "redeemedAt" stamp

end VoucherReceipt

end Turnstile.Shop
