import Turnstile.Shop.Violation

/-!
Orders. The total of an order is computed item by item in decimal numbers of 96 bits, so it can be
out of range.
-/

namespace Turnstile.Shop

/-- An item of an order. -/
structure OrderItem where
  productId : String
  name : String
  quantity : Nat
  unitPrice : Decimal

/-- A request to place an order. -/
structure OrderRequest where
  items : List OrderItem
  shippingAddress : String

/-- Which step of a total was out of range. -/
inductive TotalOverflow
  | product
  | sum
deriving DecidableEq, Repr

/-- What is told of a total that is out of range. -/
def TotalOverflow.message : TotalOverflow → String
  | .product => "Multiplication overflowed"
  | .sum => "Addition overflowed"

namespace OrderItem

/-- Reads an item; a quantity has 32 bits. -/
def decoder : Json.Decoder OrderItem :=
  Json.Fields.decode <|
    OrderItem.mk <$> .required "productId" .string <*> .required "name" .string
      <*> .required "quantity" (.natBelow (Nat.pow 2 32)) <*> .required "unitPrice" Shop.amount

/-- The item as JSON. -/
def toJson (i : OrderItem) : Json :=
  .ofMembers [("productId", .string i.productId), ("name", .string i.name),
    ("quantity", .nat i.quantity), ("unitPrice", amountJson i.unitPrice)]

/-- The rules that an item breaks. -/
def violations (i : OrderItem) : List Violation :=
  violated (Text.allBlank i.productId) "items.productId" "productId cannot be empty" ++
  violated (i.quantity = 0) "items.quantity" "quantity must be at least 1" ++
  violated i.unitPrice.isNegative "items.unitPrice" "unitPrice cannot be negative"

/-- The price of an item, if it is in range. -/
def price? (i : OrderItem) : Option Decimal :=
  (Decimal.ofInt? i.quantity).bind i.unitPrice.mul?

end OrderItem

namespace OrderRequest

/-- Reads a request. -/
def decoder : Json.Decoder OrderRequest :=
  Json.Fields.decode <|
    OrderRequest.mk <$> .required "items" (.list OrderItem.decoder)
      <*> .required "shippingAddress" .string

/-- The request as JSON. -/
def toJson (r : OrderRequest) : Json :=
  .ofMembers [("items", .array (r.items.map OrderItem.toJson)),
    ("shippingAddress", .string r.shippingAddress)]

/-- The rules that the request breaks. -/
def violations (r : OrderRequest) : List Violation :=
  violated r.items.isEmpty "items" "order must contain at least one item" ++
  r.items.flatMap OrderItem.violations ++
  violated (Text.allBlank r.shippingAddress) "shippingAddress" "shippingAddress cannot be empty"

/-- Adds the price of an item to a sum. -/
def addItem (sum : Decimal) (i : OrderItem) : Except TotalOverflow Decimal :=
  match i.price? with
  | none => .error .product
  | some price =>
    match sum.add? price with
    | none => .error .sum
    | some sum => .ok sum

/-- The sum of the prices, starting from zero. -/
def total (r : OrderRequest) : Except TotalOverflow Decimal := r.items.foldlM addItem .zero

end OrderRequest

/-- The receipt of an order. -/
structure OrderReceipt where
  orderId : String
  total : Decimal
  itemCount : Nat
  status : String
  createdAt : Instant

namespace OrderReceipt

/-- The receipt as JSON. -/
def toJson (r : OrderReceipt) : Json :=
  .ofMembers [("orderId", .string r.orderId), ("total", amountJson r.total),
    ("itemCount", .nat r.itemCount), ("status", .string r.status),
    ("createdAt", stampJson r.createdAt)]

/-- Reads a receipt. -/
def decoder : Json.Decoder OrderReceipt :=
  Json.Fields.decode <|
    OrderReceipt.mk <$> .required "orderId" .string <*> .required "total" Shop.amount
      <*> .required "itemCount" (.natBelow (Nat.pow 2 64)) <*> .required "status" .string
      <*> .required "createdAt" stamp

end OrderReceipt

end Turnstile.Shop
