import Turnstile.Guard.Call
import Turnstile.Shop.Order
import Turnstile.Shop.Payment
import Turnstile.Shop.Subscription
import Turnstile.Shop.Voucher

/-!
The shop's guarded operations: what each of them answers, given a fresh identifier and the time.
-/

namespace Turnstile.Http

/-- A guarded operation with its request. -/
inductive Operation
  | payment (request : Shop.PaymentRequest)
  | refund (request : Shop.RefundRequest)
  | order (request : Shop.OrderRequest)
  | cancellation (orderId : String)
  | subscription (request : Shop.SubscribeRequest)
  | redemption (request : Shop.VoucherRequest)

namespace Operation

/-- A log event of an operation. -/
def notice (message : String) (fields : List (String × String)) : List Effect :=
  [.log ⟨.info, message, fields.map fun (name, text) => (name, .text text)⟩]

/-- An operation that returns a receipt. -/
def returns {α : Type} (encode : α → Json) (status : UInt16) (receipt : α) : Ending Fault :=
  .returned (.ofBody encode status receipt)

/-- What an operation logs and how it ends. -/
def perform (op : Operation) (fresh : Token) (now : Instant) : List Effect × Ending Fault :=
  match op with
  | .payment r =>
    let receipt : Shop.PaymentReceipt :=
      ⟨"TXN-" ++ fresh.text, r.amount, r.currency, "COMPLETED", now⟩
    (notice "Payment processed"
      [("transaction_id", receipt.transactionId), ("amount", receipt.amount.text)],
     returns Shop.PaymentReceipt.toJson 200 receipt)
  | .refund r =>
    let receipt : Shop.RefundReceipt :=
      ⟨"RFD-" ++ fresh.text, r.transactionId, r.amount, "REFUNDED", now⟩
    (notice "Refund issued" [("refund_id", receipt.refundId)],
     returns Shop.RefundReceipt.toJson 201 receipt)
  | .order r =>
    match r.total with
    | .error overflow => ([], .panicked overflow.message)
    | .ok total =>
      let receipt : Shop.OrderReceipt :=
        ⟨"ORD-" ++ fresh.text, total, r.items.length, "CREATED", now⟩
      (notice "Order created" [("order_id", receipt.orderId), ("total", receipt.total.text)],
       returns Shop.OrderReceipt.toJson 201 receipt)
  | .cancellation orderId =>
    (notice "Order cancelled" [("order_id", orderId)], .returned (.empty 204))
  | .subscription r =>
    (notice "Subscription created" [("email", Text.mask 3 r.email)], .returned (.empty 200))
  | .redemption r =>
    let receipt : Shop.VoucherReceipt := ⟨"RDM-" ++ fresh.text, r.voucherCode, r.userId, now⟩
    (notice "Voucher redeemed" [("redemption_id", receipt.redemptionId)],
     returns Shop.VoucherReceipt.toJson 201 receipt)

end Operation

end Turnstile.Http
