import Turnstile.Outcome
import Turnstile.Proofs.Json.Fields
import Turnstile.Proofs.Json.RoundTrip
import Turnstile.Proofs.Number.Reading
import Turnstile.Proofs.Time.Stamp
import Turnstile.Record.Wire
import Turnstile.Shop.Order
import Turnstile.Shop.Payment
import Turnstile.Shop.Voucher

/-!
Receipts that are kept in outcomes. Main statement: the receipt that is read from an outcome is the
one that was put into it, whatever its texts, its amount, its time and its count are, and the
payload is read unchanged from its text (`receipts_survive`). Of an amount only the sign of a zero
is lost.

A receipt is an object of texts and counts. So it is read back as soon as each of its fields is
(`Json.Fields.ReadsBack`), and its payload is portable (`Outcome.survives_of_readsBack`).
-/

namespace Turnstile

/-! ## Bodies of outcomes -/

/-- A body survives in an outcome as another one:

* `body`: it is read from the outcome, whatever the status is;
* `integral`: no floating-point number occurs in the payload;
* `payload`: the payload is read unchanged from its text. -/
structure Outcome.Survives {α : Type} (encode : α → Json) (decode : Json.Decoder α)
    (sent received : α) : Prop where
  body : ∀ status, (Outcome.ofBody encode status sent).body decode = .ok received
  integral : (encode sent).noDouble = true
  payload : Record.Wire.readPayload (encode sent).text = .ok (encode sent)

/-- A text or a count of 64 bits. -/
inductive Json.Plain : Json → Prop
  | text (s : String) : Plain (.string s)
  | count {n : Nat} (h : n < Nat.pow 2 64) : Plain (.nat n)

attribute [simp] Json.Plain.text

theorem Json.Plain.portable {j : Json} (h : j.Plain) : j.Portable ∧ j.depth < Written.maxDepth := by
  have flat : 0 < Written.maxDepth := by decide
  cases h with
  | text s => exact ⟨⟨.string s, rfl, Nat.le_of_lt flat⟩, flat⟩
  | @count n small =>
    have range : isInteger n = true := by
      rw [Nat.pow_eq] at small
      simp only [isInteger, Nat.pow_eq, Bool.and_eq_true, decide_eq_true_eq]
      omega
    exact ⟨⟨.int range, rfl, Nat.le_of_lt flat⟩, flat⟩

/-- A record whose fields are read back from plain members survives. -/
theorem Outcome.survives_of_readsBack {α : Type} {encode : α → Json} {fields : Json.Fields α}
    {members : List (String × Json)} {sent received : α}
    (encoded : encode sent = .ofMembers members)
    (reads : fields.ReadsBack members received) (nodup : (members.map Prod.fst).Nodup)
    (plain : ∀ m ∈ members, m.2.Plain) : Survives encode fields.decode sent received := by
  have portable : (encode sent).Portable := by
    rw [encoded]
    exact Json.portable_ofMembers fun m mem => (plain m mem).portable
  refine ⟨fun status => ?_, portable.integral, ?_⟩
  · show fields.decode (Json.Written.ofJson (encode sent)) = .ok received
    rw [encoded]
    exact reads.decode_ofMembers nodup
  · rw [Record.Wire.readPayload, Json.read?_text portable]

namespace Shop

open Json.Decoder (string_ofJson natBelow_ofJson)

/-! ## Amounts and times -/

theorem amount_amountJson (d : Decimal) : amount (.ofJson (amountJson d)) = .ok d.unsigned := by
  rw [amountJson, Json.Written.ofJson, amount, Decimal.read?_text]
  rfl

theorem stamp_stampJson {t : Instant} (leapless : t.Leapless) :
    stamp (.ofJson (stampJson t)) = .ok t := by
  rw [stampJson, stamp, Json.Decoder.parsed, string_ofJson, Except.bind,
    Stamp.read?_write leapless]
  rfl

@[simp] theorem plain_amountJson (d : Decimal) : (amountJson d).Plain := .text _

@[simp] theorem plain_stampJson (t : Instant) : (stampJson t).Plain := .text _

/-! ## Receipts -/

theorem PaymentReceipt.survives {r : PaymentReceipt} (leapless : r.processedAt.Leapless) :
    Outcome.Survives toJson decoder r { r with amount := r.amount.unsigned } := by
  refine Outcome.survives_of_readsBack rfl ?reads ?nodup ?plain
  case reads =>
    refine .seq (.seq (.seq (.seq (.map (.required ?_ (string_ofJson r.transactionId)) mk)
      (.required ?_ (amount_amountJson r.amount))) (.required ?_ (string_ofJson r.currency)))
      (.required ?_ (string_ofJson r.status))) (.required ?_ (stamp_stampJson leapless))
    all_goals simp
  case nodup => simp
  case plain => simp

theorem RefundReceipt.survives {r : RefundReceipt} (leapless : r.refundedAt.Leapless) :
    Outcome.Survives toJson decoder r { r with amount := r.amount.unsigned } := by
  refine Outcome.survives_of_readsBack rfl ?reads ?nodup ?plain
  case reads =>
    refine .seq (.seq (.seq (.seq (.map (.required ?_ (string_ofJson r.refundId)) mk)
      (.required ?_ (string_ofJson r.transactionId))) (.required ?_ (amount_amountJson r.amount)))
      (.required ?_ (string_ofJson r.status))) (.required ?_ (stamp_stampJson leapless))
    all_goals simp
  case nodup => simp
  case plain => simp

theorem OrderReceipt.survives {r : OrderReceipt} (count : r.itemCount < Nat.pow 2 64)
    (leapless : r.createdAt.Leapless) :
    Outcome.Survives toJson decoder r { r with total := r.total.unsigned } := by
  refine Outcome.survives_of_readsBack rfl ?reads ?nodup ?plain
  case reads =>
    refine .seq (.seq (.seq (.seq (.map (.required ?_ (string_ofJson r.orderId)) mk)
      (.required ?_ (amount_amountJson r.total))) (.required ?_ (natBelow_ofJson count)))
      (.required ?_ (string_ofJson r.status))) (.required ?_ (stamp_stampJson leapless))
    all_goals simp
  case nodup => simp
  case plain => simpa using .count count

theorem VoucherReceipt.survives {r : VoucherReceipt} (leapless : r.redeemedAt.Leapless) :
    Outcome.Survives toJson decoder r r := by
  refine Outcome.survives_of_readsBack rfl ?reads ?nodup ?plain
  case reads =>
    refine .seq (.seq (.seq (.map (.required ?_ (string_ofJson r.redemptionId)) mk)
      (.required ?_ (string_ofJson r.voucherCode))) (.required ?_ (string_ofJson r.userId)))
      (.required ?_ (stamp_stampJson leapless))
    all_goals simp
  case nodup => simp
  case plain => simp

/-- **Receipts survive.** A receipt with a time outside of leap seconds that is put into an outcome,
with any status, is read from it as it was: with the same texts, the same time to the nanosecond,
the same count, and an amount of the same value and the same scale, which is the same amount unless
it is a zero with a minus sign. There is no floating-point number in the payload, and it is read
unchanged from its text. -/
theorem receipts_survive :
    (∀ r : PaymentReceipt, r.processedAt.Leapless →
      Outcome.Survives PaymentReceipt.toJson PaymentReceipt.decoder r
        { r with amount := r.amount.unsigned }) ∧
    (∀ r : RefundReceipt, r.refundedAt.Leapless →
      Outcome.Survives RefundReceipt.toJson RefundReceipt.decoder r
        { r with amount := r.amount.unsigned }) ∧
    (∀ r : OrderReceipt, r.createdAt.Leapless → r.itemCount < Nat.pow 2 64 →
      Outcome.Survives OrderReceipt.toJson OrderReceipt.decoder r
        { r with total := r.total.unsigned }) ∧
    (∀ r : VoucherReceipt, r.redeemedAt.Leapless →
      Outcome.Survives VoucherReceipt.toJson VoucherReceipt.decoder r r) ∧
    ∀ d : Decimal, d.unsigned.value = d.value ∧ d.unsigned.scale = d.scale ∧
      (d.unsigned = d ↔ ¬(d.negative = true ∧ d.coefficient = 0)) := by
  refine ⟨?payments, ?refunds, ?orders, ?vouchers, ?amounts⟩
  case payments =>
    intro r leapless
    exact PaymentReceipt.survives leapless
  case refunds =>
    intro r leapless
    exact RefundReceipt.survives leapless
  case orders =>
    intro r leapless count
    exact OrderReceipt.survives count leapless
  case vouchers =>
    intro r leapless
    exact VoucherReceipt.survives leapless
  case amounts =>
    intro d
    exact ⟨d.value_unsigned, d.scale_unsigned, Decimal.unsigned_eq_self_iff⟩

/-! ### The first and the last of the years with four digits -/

/-- A nanosecond into the year 0. -/
def dawn : Instant := (Instant.ofParts? (-62167219200) 1).getD .epoch

/-- The last nanosecond of the year 9999. -/
def dusk : Instant := (Instant.ofParts? 253402300799 999999999).getD .epoch

/-- An amount of `-(2 ^ 96 - 1)` at the largest scale. -/
def debit : Decimal := (Decimal.ofParts? true 79228162514264337593543950335 28).getD .zero

/-- A zero with two digits after the point. -/
def nothing : Decimal := (Decimal.ofParts? false 0 2).getD .zero

/-- The same with a minus sign. -/
def owedNothing : Decimal := { nothing with negative := true }

/-- A receipt whose texts have to be escaped. -/
def debited : PaymentReceipt := ⟨"TXN-\"\\\u0001\u2028", debit, "é😀", "", dawn⟩

/-- A receipt for nothing. -/
def refunded : RefundReceipt := ⟨"RFD-1", "", owedNothing, "REFUNDED", dusk⟩

/-- An order of as many items as can be counted. -/
def ordered : OrderReceipt := ⟨"ORD-1", debit, 18446744073709551615, "CREATED", dusk⟩

/-- A receipt for a voucher whose code is a line break. -/
def redeemed : VoucherReceipt := ⟨"RDM-1", "\n", "user", dawn⟩

/-- Of these receipts only the one for a zero with a minus sign is changed: the sign is lost. -/
theorem receipts_survive_extreme :
    dawn.Leapless ∧ dusk.Leapless ∧ ordered.itemCount < Nat.pow 2 64 ∧
      Outcome.Survives PaymentReceipt.toJson PaymentReceipt.decoder debited debited ∧
      Outcome.Survives RefundReceipt.toJson RefundReceipt.decoder refunded
        { refunded with amount := nothing } ∧
      Outcome.Survives OrderReceipt.toJson OrderReceipt.decoder ordered ordered ∧
      Outcome.Survives VoucherReceipt.toJson VoucherReceipt.decoder redeemed redeemed ∧
      owedNothing.unsigned ≠ owedNothing ∧ owedNothing.unsigned.value = owedNothing.value := by
  obtain ⟨payments, refunds, orders, vouchers, amounts⟩ := receipts_survive
  have early : dawn.Leapless := by unfold Instant.Leapless; decide
  have late : dusk.Leapless := by unfold Instant.Leapless; decide
  have count : ordered.itemCount < Nat.pow 2 64 := by decide
  have kept : debit.unsigned = debit := (amounts debit).2.2.2 (by decide)
  have payment := payments debited early
  have refund := refunds refunded late
  have order := orders ordered late count
  rw [show debited.amount.unsigned = debited.amount from kept] at payment
  rw [show refunded.amount.unsigned = nothing by decide] at refund
  rw [show ordered.total.unsigned = ordered.total from kept] at order
  refine ⟨early, late, count, payment, refund, order, vouchers redeemed early, ?_,
    (amounts owedNothing).1⟩
  intro same
  exact (amounts owedNothing).2.2.1 same (by decide)

end Shop

end Turnstile
