import Turnstile.Http.Service
import Turnstile.Proofs.Json.Fields
import Turnstile.Proofs.Shop.Total
import Turnstile.Store.Memory

/-!
Orders that are placed. A service checks the rules of an order before it claims the key, but no rule
bounds a total; the total is computed under the lease. Main statements: the orders that a service
holds are valid (`Service.valid_of_held`), and an order is answered with its receipt exactly if its
total is in range, else its key is released and the answer is 500 (`order_answered`). An order is in
range for sure if the exact sum of its prices is by one unit for each item; a single price times two
need not be (`not_order_in_range`).
-/

namespace Turnstile.Http

open Shop (OrderItem OrderReceipt OrderRequest TotalOverflow)
open Shop.OrderRequest (OutOfRange cost)

variable {σ : Type} {s : Service σ} {held : Held} {state : σ} {m : Moment} {r : OrderRequest}
  {total : Decimal} {e : TotalOverflow}

/-! ## The end of an order -/

/-- What an order answers whose total is in range. -/
def receipt (r : OrderRequest) (total : Decimal) (m : Moment) : Outcome :=
  .ofBody OrderReceipt.toJson 201 ⟨"ORD-" ++ m.fresh.text, total, r.items.length, "CREATED", m.now⟩

/-- An order whose total is out of range gives its key free and is answered with 500. -/
theorem settle_of_error (order : held.operation = .order r) (h : r.total = .error e) :
    (s.settle held state m).value = .error 500 (.internal m.now) ∧
      (s.settle held state m).state =
        (s.guard.release held.lease "operation aborted" state m.now).state := by
  unfold Service.settle Operation.perform
  rw [order]
  simp only [h]
  exact ⟨rfl, rfl⟩

/-- An order whose total is in range is answered with its receipt, unless the end of the window is
out of range. -/
theorem settle_of_ok (order : held.operation = .order r) (h : r.total = .ok total)
    (completes : (s.guard.store.complete state m.now held.lease.key held.lease.owner
      (receipt r total m) held.window).result ≠ .overflow) :
    (s.settle held state m).value = .ofOutcome (receipt r total m) := by
  unfold Service.settle Operation.perform
  rw [order]
  simp only [h]
  show (Response.ofResult m.now (s.guard.finish held.lease held.window
    (.returned (receipt r total m)) state m.now).value).2 = _
  unfold Guard.finish Guard.conclude Guard.complete
  simp only []
  split
  · rfl
  · rfl
  · rfl
  · rename_i broken
    exact absurd broken completes

/-! ## Orders that are held -/

theorem quantity_lt_of_decode {w : Json.Written} (h : OrderRequest.decoder w = .ok r) :
    ∀ i ∈ r.items, i.quantity < Nat.pow 2 32 := by
  unfold OrderRequest.decoder at h
  obtain ⟨found, built⟩ := Json.Fields.exists_build_of_decode h
  obtain ⟨_, first, address, -, rfl⟩ := Schema.build_seq_eq_ok_iff.1 built
  obtain ⟨items, list, rfl⟩ := Schema.build_map_eq_ok_iff.1 first
  obtain ⟨_, -, read⟩ := Schema.build_required_eq_ok_iff.1 list
  intro i mem
  obtain ⟨w, item⟩ := Json.Decoder.exists_of_mem_list read mem
  unfold OrderItem.decoder at item
  obtain ⟨found, built⟩ := Json.Fields.exists_build_of_decode item
  obtain ⟨_, three, price, -, rfl⟩ := Schema.build_seq_eq_ok_iff.1 built
  obtain ⟨_, two, quantity, number, rfl⟩ := Schema.build_seq_eq_ok_iff.1 three
  obtain ⟨_, one, name, -, rfl⟩ := Schema.build_seq_eq_ok_iff.1 two
  obtain ⟨id, -, rfl⟩ := Schema.build_map_eq_ok_iff.1 one
  obtain ⟨_, -, natural⟩ := Schema.build_required_eq_ok_iff.1 number
  exact Json.Decoder.lt_of_natBelow natural

theorem valid_of_readValid {q : Request}
    (h : Service.readValid OrderRequest.decoder (·.violations) m.now q = .ok r) : r.Valid := by
  unfold Service.readValid at h
  obtain ⟨body, read, checked⟩ := bind_eq_ok_iff.1 h
  simp only [] at checked
  split at checked
  · rename_i none
    cases checked
    refine ⟨List.isEmpty_iff.1 none, ?_⟩
    unfold Service.readBody at read
    split at read
    · split at read
      · cases read
      · split at read
        · rename_i decoded
          cases read
          exact quantity_lt_of_decode decoded
        · cases read
        · cases read
    · cases read
  · cases checked

/-- The orders that a service holds are valid. -/
theorem Service.valid_of_held {q : Request} {t : Traced σ Acceptance}
    (accepted : s.acceptOperation .orders q state m = .ok t) (waits : t.value = .held held) :
    ∃ r, held.operation = .order r ∧ r.Valid := by
  unfold Service.acceptOperation at accepted
  obtain ⟨r, read, opened⟩ := map_eq_ok_iff.1 accepted
  refine ⟨r, ?_, valid_of_readValid read⟩
  subst opened
  unfold Service.openOperation at waits
  simp only [] at waits
  split at waits
  · cases waits
    rfl
  · cases waits
  · cases waits

/-! ## Main result -/

/-- The total of a valid order is out of range exactly if it is at one of its items, which it is not
if the exact sum of the prices is in range by one unit for each item; a total in range is at most so
much off. Out of range the order is answered with 500, and in range with its receipt unless the end
of the window is out of range. -/
theorem order_answered (valid : r.Valid) :
    (∀ e, r.total = .error e ↔ OutOfRange r e) ∧
    (cost r.items + r.items.length < Decimal.bound → ∀ e, ¬OutOfRange r e) ∧
    (∀ total, r.total = .ok total → |total.value - cost r.items| ≤ r.items.length) ∧
    ∀ {σ : Type} (s : Service σ) (held : Held) (state : σ) (m : Moment),
      held.operation = .order r →
      (∀ e, OutOfRange r e → (s.settle held state m).value = .error 500 (.internal m.now)) ∧
      ((∀ e, ¬OutOfRange r e) → ∃ total, r.total = .ok total ∧
        ((s.guard.store.complete state m.now held.lease.key held.lease.owner (receipt r total m)
            held.window).result ≠ .overflow →
          (s.settle held state m).value = .ofOutcome (receipt r total m))) := by
  refine ⟨valid.total_eq_error_iff, ?_, fun total => valid.abs_value_sub_cost_le, ?_⟩
  · intro room e far
    obtain ⟨total, h⟩ := valid.exists_total_of_lt room
    rw [← valid.total_eq_error_iff, h] at far
    cases far
  · intro σ s held state m order
    refine ⟨fun e far => (settle_of_error order ((valid.total_eq_error_iff e).2 far)).1, ?_⟩
    intro near
    cases h : r.total with
    | error e => exact absurd ((valid.total_eq_error_iff e).1 h) (near e)
    | ok total => exact ⟨total, rfl, settle_of_ok order h⟩

/-- The largest price. -/
def dearest : Decimal := Shop.OrderRequest.price (Decimal.limit - 1) 0

theorem value_dearest : dearest.value = Decimal.limit - 1 := by
  have digits : dearest.coefficient = Decimal.limit - 1 := rfl
  have parts : dearest.value = dearest.coefficient / 10 ^ 0 := Decimal.ratio_false ..
  rw [parts, digits, Nat.cast_sub (by decide)]
  simp

/-- An order of some pieces at the largest price, one item for each number of pieces. -/
def bulk (pieces : List Nat) : OrderRequest where
  items := pieces.map fun quantity => ⟨"p1", "Widget", quantity, dearest⟩
  shippingAddress := "1 Main St"

/-- Two pieces are out of range. -/
theorem outOfRange_two : OutOfRange (bulk [2]) .product := by
  refine ⟨.zero, _, ⟨[], [], rfl, rfl⟩, ?_⟩
  rw [OrderItem.charge, value_dearest]
  unfold Decimal.bound Decimal.limit
  norm_num

/-- One piece and one more are in range, and their sum is not. -/
theorem outOfRange_one_one : OutOfRange (bulk [1, 1]) .sum := by
  refine ⟨dearest, ⟨"p1", "Widget", 1, dearest⟩, dearest, ⟨(bulk [1]).items, [], rfl, rfl⟩, rfl, ?_⟩
  rw [value_dearest]
  unfold Decimal.bound Decimal.limit
  norm_num

/-- A service that takes orders, over the store in memory. -/
def orderService : Service Memory.State := ⟨⟨Memory.store, "guard"⟩, .standard, false⟩

/-- An order that waits. -/
def waiting (r : OrderRequest) : Held := ⟨⟨"orders", "k", .serial 1⟩, .ofSeconds 60, .order r, 0⟩

/-- Three items of the price of 44.99 are answered with their receipt, and two pieces at the largest
price with 500. -/
theorem order_answered_basket :
    Shop.OrderRequest.basket.Valid ∧ (bulk [2]).Valid ∧
    cost Shop.OrderRequest.basket.items + 3 < Decimal.bound ∧
    (∀ e, ¬OutOfRange Shop.OrderRequest.basket e) ∧ OutOfRange (bulk [2]) .product ∧
    (orderService.settle (waiting Shop.OrderRequest.basket) .empty ⟨.epoch, .serial 2⟩).value =
      .ofOutcome (receipt Shop.OrderRequest.basket (Shop.OrderRequest.price 4499 2)
        ⟨.epoch, .serial 2⟩) ∧
    (orderService.settle (waiting (bulk [2])) .empty ⟨.epoch, .serial 2⟩).value =
      .error 500 (.internal .epoch) := by
  have valid : (bulk [2]).Valid := by
    constructor <;> decide
  have room : cost Shop.OrderRequest.basket.items + 3 < Decimal.bound := by
    rw [Shop.OrderRequest.cost_basket]
    unfold Decimal.bound Decimal.limit
    norm_num
  obtain ⟨-, inRange, -, answers⟩ := order_answered Shop.OrderRequest.valid_basket
  obtain ⟨-, -, -, refusals⟩ := order_answered valid
  have near := inRange room
  obtain ⟨total, sum, answered⟩ :=
    (answers orderService (waiting Shop.OrderRequest.basket) .empty ⟨.epoch, .serial 2⟩ rfl).2 near
  have price : total = Shop.OrderRequest.price 4499 2 := by
    cases sum
    rfl
  subst price
  refine ⟨Shop.OrderRequest.valid_basket, valid, room, near, outOfRange_two, answered ?_, ?_⟩
  · intro broken
    cases broken
  · exact (refusals orderService (waiting (bulk [2])) .empty ⟨.epoch, .serial 2⟩ rfl).1 _
      outOfRange_two

/-- Not every valid order has a total: a single price can be out of range, and so can the sum of
two. -/
theorem not_order_in_range :
    (¬∀ r : OrderRequest, r.Valid → ∃ total, r.total = .ok total) ∧
      (bulk [2]).total = .error .product ∧ (bulk [1, 1]).total = .error .sum := by
  have one : (bulk [1, 1]).Valid := by
    constructor <;> decide
  have two : (bulk [2]).Valid := by
    constructor <;> decide
  have product := (two.total_eq_error_iff .product).2 outOfRange_two
  refine ⟨?_, product, (one.total_eq_error_iff .sum).2 outOfRange_one_one⟩
  intro always
  obtain ⟨total, sum⟩ := always _ two
  rw [product] at sum
  cases sum

end Turnstile.Http
