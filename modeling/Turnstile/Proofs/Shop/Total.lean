import Mathlib.Algebra.Order.BigOperators.Group.List
import Turnstile.Proofs.Number.Decimal
import Turnstile.Shop.Order

/-!
Totals of orders. A total is added up item by item, and each item can cost it a digit twice, in its
price and in the sum. Main statements: a total is out of range exactly if it is at one of its items
(`total_eq_error_iff`), it is at most one unit off for each item (`abs_value_sub_cost_le`), so it is
in range if the exact sum of the prices is by as much (`exists_total_of_lt`); and it is the exact
sum, in whatever order the items stand, if that sum fits 96 bits with as many digits after the point
as the finest price has (`total_exact`).
-/

namespace Turnstile.Shop

open Decimal (bound Rounds)

namespace OrderItem

variable {i : OrderItem}

/-- The exact price of an item. -/
def charge (i : OrderItem) : ℚ := i.unitPrice.value * i.quantity

theorem exists_quantity (h : i.quantity < Nat.pow 2 32) :
    ∃ q, Decimal.ofInt? i.quantity = some q ∧ q.negative = false ∧ q.coefficient = i.quantity ∧
      q.scale = 0 ∧ q.value = i.quantity :=
  Decimal.exists_ofInt? (Nat.lt_trans h (by decide))

/-- The price of an item is its exact price, rounded. -/
theorem rounds_price? (h : i.quantity < Nat.pow 2 32) : Rounds i.charge i.price? := by
  obtain ⟨q, made, -, -, -, value⟩ := exists_quantity h
  unfold charge price?
  rw [made, ← value]
  exact Decimal.rounds_mul? ..

end OrderItem

namespace OrderRequest

variable {r : OrderRequest} {items : List OrderItem} {i : OrderItem} {sum next d : Decimal}

/-- A request that breaks no rule, with quantities of 32 bits. -/
structure Valid (r : OrderRequest) : Prop where
  violations : r.violations = []
  quantity_lt : ∀ i ∈ r.items, i.quantity < Nat.pow 2 32

theorem Valid.item (valid : r.Valid) (mem : i ∈ r.items) :
    i.quantity ≠ 0 ∧ i.unitPrice.isNegative = false := by
  have broken := valid.violations
  unfold OrderRequest.violations at broken
  simp only [List.append_eq_nil_iff, List.flatMap_eq_nil_iff] at broken
  have rules := broken.1.2 i mem
  unfold OrderItem.violations violated at rules
  simp only [List.append_eq_nil_iff] at rules
  obtain ⟨⟨-, quantity⟩, price⟩ := rules
  constructor
  · intro zero
    simp [zero] at quantity
  · cases negative : i.unitPrice.isNegative
    · rfl
    · simp [negative] at price

/-- The exact sum of the prices. -/
def cost (items : List OrderItem) : ℚ := (items.map OrderItem.charge).sum

theorem cost_cons (i : OrderItem) (items : List OrderItem) :
    cost (i :: items) = i.charge + cost items := by
  simp [cost]

theorem cost_nonneg (nonneg : ∀ i ∈ items, 0 ≤ i.charge) : 0 ≤ cost items := by
  unfold cost
  exact List.sum_nonneg (by simpa using nonneg)

theorem Valid.charge_nonneg (valid : r.Valid) (mem : i ∈ r.items) : 0 ≤ i.charge := by
  have price := Decimal.isNegative_eq_false_iff.1 (valid.item mem).2
  unfold OrderItem.charge
  positivity

/-! ## One item -/

theorem addItem_eq_ok_iff : addItem sum i = .ok next ↔
    ∃ price, i.price? = some price ∧ sum.add? price = some next := by
  unfold addItem
  split
  · simp [*]
  · split <;> simp [*]

theorem addItem_eq_product_iff : addItem sum i = .error .product ↔ i.price? = none := by
  unfold addItem
  split
  · simp [*]
  · split <;> simp [*]

theorem addItem_eq_sum_iff : addItem sum i = .error .sum ↔
    ∃ price, i.price? = some price ∧ sum.add? price = none := by
  unfold addItem
  split
  · simp [*]
  · split <;> simp [*]

/-- An item leaves a sum at most one unit off: half a unit for its price and half a unit for the
sum. -/
theorem abs_sub_le_of_addItem (small : i.quantity < Nat.pow 2 32) (h : addItem sum i = .ok next) :
    |next.value - (sum.value + i.charge)| ≤ 1 := by
  obtain ⟨price, made, added⟩ := addItem_eq_ok_iff.1 h
  have product := abs_le.1 ((OrderItem.rounds_price? small).abs_value_sub_le made)
  have total := abs_le.1 ((Decimal.rounds_add? sum price).abs_value_sub_le added)
  rw [abs_le]
  constructor <;> linarith [product.1, product.2, total.1, total.2]

theorem value_nonneg_of_addItem (small : i.quantity < Nat.pow 2 32) (charge : 0 ≤ i.charge)
    (nonneg : 0 ≤ sum.value) (h : addItem sum i = .ok next) : 0 ≤ next.value := by
  obtain ⟨price, made, added⟩ := addItem_eq_ok_iff.1 h
  have product := (OrderItem.rounds_price? small).value_nonneg made charge
  exact (Decimal.rounds_add? sum price).value_nonneg added (add_nonneg nonneg product)

/-- An item does not lead out of range if there is a unit left after it. -/
theorem exists_addItem_of_lt (small : i.quantity < Nat.pow 2 32) (charge : 0 ≤ i.charge)
    (nonneg : 0 ≤ sum.value) (room : sum.value + i.charge + 1 < bound) :
    ∃ next, addItem sum i = .ok next := by
  have rounded := OrderItem.rounds_price? small
  cases made : i.price? with
  | none =>
    have far := rounded.eq_none_iff.1 made
    rw [abs_of_nonneg charge] at far
    linarith
  | some price =>
    have off := (abs_le.1 (rounded.abs_value_sub_le made)).2
    have above := rounded.value_nonneg made charge
    cases added : sum.add? price with
    | none =>
      have far := (Decimal.rounds_add? sum price).eq_none_iff.1 added
      rw [abs_of_nonneg (add_nonneg nonneg above)] at far
      linarith
    | some next => exact ⟨next, addItem_eq_ok_iff.2 ⟨price, made, added⟩⟩

/-! ## All items -/

theorem foldlM_cons_eq_ok_iff : (i :: items).foldlM addItem sum = .ok d ↔
    ∃ next, addItem sum i = .ok next ∧ items.foldlM addItem next = .ok d := by
  rw [List.foldlM_cons]
  exact bind_eq_ok_iff

theorem abs_sub_le_of_foldlM (small : ∀ i ∈ items, i.quantity < Nat.pow 2 32)
    (h : items.foldlM addItem sum = .ok d) :
    |d.value - (sum.value + cost items)| ≤ items.length := by
  induction items generalizing sum with
  | nil =>
    cases h
    simp [cost]
  | cons i items ih =>
    obtain ⟨next, step, h⟩ := foldlM_cons_eq_ok_iff.1 h
    have head := abs_le.1 (abs_sub_le_of_addItem (small i List.mem_cons_self) step)
    have tail := abs_le.1 (ih (fun j mem => small j (List.mem_cons_of_mem i mem)) h)
    rw [abs_le, cost_cons, List.length_cons]
    push_cast
    constructor <;> linarith [head.1, head.2, tail.1, tail.2]

theorem value_nonneg_of_foldlM (small : ∀ i ∈ items, i.quantity < Nat.pow 2 32)
    (charges : ∀ i ∈ items, 0 ≤ i.charge) (nonneg : 0 ≤ sum.value)
    (h : items.foldlM addItem sum = .ok d) : 0 ≤ d.value := by
  induction items generalizing sum with
  | nil =>
    cases h
    exact nonneg
  | cons i items ih =>
    obtain ⟨next, step, h⟩ := foldlM_cons_eq_ok_iff.1 h
    have first := value_nonneg_of_addItem (small i List.mem_cons_self)
      (charges i List.mem_cons_self) nonneg step
    exact ih (fun j mem => small j (List.mem_cons_of_mem i mem))
      (fun j mem => charges j (List.mem_cons_of_mem i mem)) first h

theorem exists_foldlM_of_lt (small : ∀ i ∈ items, i.quantity < Nat.pow 2 32)
    (charges : ∀ i ∈ items, 0 ≤ i.charge) (nonneg : 0 ≤ sum.value)
    (room : sum.value + cost items + items.length < bound) :
    ∃ d, items.foldlM addItem sum = .ok d := by
  induction items generalizing sum with
  | nil => exact ⟨sum, rfl⟩
  | cons i items ih =>
    have first := small i List.mem_cons_self
    have charge := charges i List.mem_cons_self
    have rest : ∀ j ∈ items, 0 ≤ j.charge := fun j mem => charges j (List.mem_cons_of_mem i mem)
    have left := cost_nonneg rest
    rw [cost_cons, List.length_cons] at room
    push_cast at room
    have count : (0 : ℚ) ≤ items.length := by positivity
    obtain ⟨next, step⟩ := exists_addItem_of_lt first charge nonneg (by linarith)
    have off := (abs_le.1 (abs_sub_le_of_addItem first step)).2
    have above := value_nonneg_of_addItem first charge nonneg step
    obtain ⟨d, h⟩ := ih (fun j mem => small j (List.mem_cons_of_mem i mem)) rest above
      (by linarith)
    exact ⟨d, foldlM_cons_eq_ok_iff.2 ⟨next, step, h⟩⟩

/-- A fold breaks off at one of its items. -/
theorem foldlM_eq_error_iff {e : TotalOverflow} : items.foldlM addItem sum = .error e ↔
    ∃ before i after next, items = before ++ i :: after ∧
      before.foldlM addItem sum = .ok next ∧ addItem next i = .error e := by
  induction items generalizing sum with
  | nil =>
    constructor
    · intro h
      cases h
    · rintro ⟨before, i, after, -, split, -⟩
      cases before <;> cases split
  | cons i items ih =>
    constructor
    · intro h
      rw [List.foldlM_cons] at h
      cases step : addItem sum i with
      | error e' =>
        rw [step] at h
        cases h
        exact ⟨[], i, items, sum, rfl, rfl, step⟩
      | ok first =>
        rw [step] at h
        obtain ⟨before, j, after, next, rfl, reached, broken⟩ := ih.1 h
        exact ⟨i :: before, j, after, next, rfl, foldlM_cons_eq_ok_iff.2 ⟨first, step, reached⟩,
          broken⟩
    · rintro ⟨before, j, after, next, split, reached, broken⟩
      rw [List.foldlM_cons]
      cases before with
      | nil =>
        cases split
        cases reached
        rw [broken]
        rfl
      | cons _ before =>
        cases split
        obtain ⟨first, step, reached⟩ := foldlM_cons_eq_ok_iff.1 reached
        rw [step]
        exact ih.2 ⟨before, j, after, next, rfl, reached, broken⟩

/-- The sum of the prices before an item. -/
def Reaches (r : OrderRequest) (sum : Decimal) (i : OrderItem) : Prop :=
  ∃ before after, r.items = before ++ i :: after ∧
    total { r with items := before } = .ok sum

/-- The total is out of range at an item: its exact price is rounded to more than 96 bits, or the
sum of the prices before it and its own is. -/
def OutOfRange (r : OrderRequest) : TotalOverflow → Prop
  | .product => ∃ sum i, r.Reaches sum i ∧ bound ≤ i.charge
  | .sum => ∃ sum i price, r.Reaches sum i ∧ i.price? = some price ∧
      bound ≤ sum.value + price.value

theorem Reaches.mem (h : r.Reaches sum i) : i ∈ r.items := by
  obtain ⟨before, after, split, -⟩ := h
  rw [split]
  exact List.mem_append_right _ List.mem_cons_self

section

variable (valid : r.Valid)

include valid

theorem Valid.value_nonneg_of_reaches (h : r.Reaches sum i) : 0 ≤ sum.value := by
  obtain ⟨before, after, split, reached⟩ := h
  have within : ∀ j ∈ before, j ∈ r.items := by
    intro j mem
    rw [split]
    exact List.mem_append_left _ mem
  exact value_nonneg_of_foldlM (fun j mem => valid.quantity_lt j (within j mem))
    (fun j mem => valid.charge_nonneg (within j mem)) (le_of_eq Decimal.value_zero.symm) reached

/-- A total is out of range exactly if it is at one of its items. -/
theorem Valid.total_eq_error_iff (e : TotalOverflow) : r.total = .error e ↔ r.OutOfRange e := by
  have breaks : r.total = .error e ↔ ∃ sum i, r.Reaches sum i ∧ addItem sum i = .error e := by
    unfold total
    rw [foldlM_eq_error_iff]
    constructor
    · rintro ⟨before, i, after, sum, split, reached, broken⟩
      exact ⟨sum, i, ⟨before, after, split, reached⟩, broken⟩
    · rintro ⟨sum, i, ⟨before, after, split, reached⟩, broken⟩
      exact ⟨before, i, after, sum, split, reached, broken⟩
  rw [breaks]
  cases e with
  | product =>
    refine exists_congr fun sum => exists_congr fun i => and_congr_right fun reached => ?_
    have small := valid.quantity_lt i reached.mem
    rw [addItem_eq_product_iff, (OrderItem.rounds_price? small).eq_none_iff,
      abs_of_nonneg (valid.charge_nonneg reached.mem)]
  | sum =>
    refine exists_congr fun sum => exists_congr fun i => ?_
    rw [addItem_eq_sum_iff, ← exists_and_left]
    refine exists_congr fun price => and_congr_right fun reached => and_congr_right fun made => ?_
    have small := valid.quantity_lt i reached.mem
    have above := (OrderItem.rounds_price? small).value_nonneg made
      (valid.charge_nonneg reached.mem)
    rw [(Decimal.rounds_add? sum price).eq_none_iff,
      abs_of_nonneg (add_nonneg (valid.value_nonneg_of_reaches reached) above)]

/-- A total is at most one unit off for each item. -/
theorem Valid.abs_value_sub_cost_le (h : r.total = .ok d) :
    |d.value - cost r.items| ≤ r.items.length := by
  have off := abs_sub_le_of_foldlM valid.quantity_lt h
  rw [Decimal.value_zero, zero_add] at off
  exact off

/-- A total is in range if the exact one is by one unit for each item. -/
theorem Valid.exists_total_of_lt (room : cost r.items + r.items.length < bound) :
    ∃ d, r.total = .ok d := by
  refine exists_foldlM_of_lt valid.quantity_lt (fun i mem => valid.charge_nonneg mem)
    (le_of_eq Decimal.value_zero.symm) ?_
  rw [Decimal.value_zero, zero_add]
  exact room

end

/-! ## Totals that are not rounded -/

/-- The largest number of digits after the point of a price. -/
def finest (items : List OrderItem) : Nat :=
  (items.map fun i => i.unitPrice.scale).foldr max 0

/-- The exact sum of the prices, in units of the last digit of a scale. -/
def units (scale : Nat) (items : List OrderItem) : Nat :=
  (items.map fun i =>
    i.unitPrice.coefficient * i.quantity * 10 ^ (scale - i.unitPrice.scale)).sum

/-- The items that are not for free. -/
def charged (items : List OrderItem) : List OrderItem :=
  items.filter fun i => i.unitPrice.coefficient ≠ 0

theorem finest_le_iff {scale : Nat} :
    finest items ≤ scale ↔ ∀ i ∈ items, i.unitPrice.scale ≤ scale := by
  induction items with
  | nil => simp [finest]
  | cons i items ih =>
    unfold finest at ih ⊢
    rw [List.map_cons, List.foldr_cons, Nat.max_le, ih]
    simp

theorem finest_append (before after : List OrderItem) :
    finest (before ++ after) = max (finest before) (finest after) := by
  apply eq_of_forall_ge_iff
  intro scale
  rw [Nat.max_le, finest_le_iff, finest_le_iff, finest_le_iff, List.forall_mem_append]

theorem finest_perm {items' : List OrderItem} (h : items'.Perm items) :
    finest items' = finest items := by
  apply eq_of_forall_ge_iff
  intro scale
  rw [finest_le_iff, finest_le_iff]
  exact forall_congr' fun i => by rw [h.mem_iff]

theorem units_append (scale : Nat) (before after : List OrderItem) :
    units scale (before ++ after) = units scale before + units scale after := by
  simp [units]

theorem units_perm {items' : List OrderItem} (scale : Nat) (h : items'.Perm items) :
    units scale items' = units scale items :=
  (h.map _).sum_eq

theorem units_le_of_mem (scale : Nat) (mem : i ∈ items) :
    i.unitPrice.coefficient * i.quantity * 10 ^ (scale - i.unitPrice.scale) ≤
      units scale items :=
  List.single_le_sum (fun _ _ => Nat.zero_le _) _ (List.mem_map_of_mem mem)

/-- Nothing is charged exactly if every item is for free. -/
theorem charged_eq_nil_of_units {scale : Nat} (quantities : ∀ i ∈ items, i.quantity ≠ 0)
    (h : units scale items = 0) : charged items = [] := by
  unfold charged
  rw [List.filter_eq_nil_iff]
  intro i mem
  have none := units_le_of_mem scale mem
  rw [h, Nat.le_zero, Nat.mul_eq_zero, Nat.mul_eq_zero] at none
  have digits : 10 ^ (scale - i.unitPrice.scale) ≠ 0 := by positivity
  have free := (none.resolve_right digits).resolve_right (quantities i mem)
  simpa using free

theorem charge_eq {scale : Nat} (positive : i.unitPrice.isNegative = false)
    (h : i.unitPrice.scale ≤ scale) :
    i.charge = (i.unitPrice.coefficient * i.quantity * 10 ^ (scale - i.unitPrice.scale) : Nat) /
      10 ^ scale := by
  have nonneg := Decimal.isNegative_eq_false_iff.1 positive
  have value : i.unitPrice.value = i.unitPrice.coefficient / 10 ^ i.unitPrice.scale := by
    rw [← abs_of_nonneg nonneg]
    unfold Decimal.value
    rw [Decimal.abs_ratio]
  have split : (10 : ℚ) ^ scale = 10 ^ (scale - i.unitPrice.scale) * 10 ^ i.unitPrice.scale := by
    rw [← pow_add, Nat.sub_add_cancel h]
  rw [OrderItem.charge, value, split]
  push_cast
  field_simp

theorem cost_eq {scale : Nat} (positive : ∀ i ∈ items, i.unitPrice.isNegative = false)
    (h : finest items ≤ scale) : cost items = units scale items / 10 ^ scale := by
  induction items with
  | nil => simp [cost, units]
  | cons i items ih =>
    rw [finest_le_iff] at h
    rw [cost_cons, charge_eq (positive i List.mem_cons_self) (h i List.mem_cons_self),
      ih (fun j mem => positive j (List.mem_cons_of_mem i mem))
        (finest_le_iff.2 fun j mem => h j (List.mem_cons_of_mem i mem)), ← add_div]
    simp [units]

/-- A sum is the exact one of some items: no digit of it is lost, at the given scale, and it has as
many digits after the point as the finest price that is not zero. -/
structure Adds (scale : Nat) (done : List OrderItem) (sum : Decimal) : Prop where
  negative : sum.negative = false
  scale_eq : sum.scale = finest (charged done)
  coefficient : sum.coefficient * 10 ^ (scale - sum.scale) = units scale done

theorem adds_zero (scale : Nat) : Adds scale [] .zero := ⟨rfl, rfl, by simp [Decimal.zero, units]⟩

section

variable {scale : Nat} {done rest : List OrderItem}

/-- A sum that is zero has the parts of zero. -/
theorem Adds.eq_zero (h : Adds scale done sum) (quantities : ∀ i ∈ done, i.quantity ≠ 0)
    (none : sum.coefficient = 0) : sum.negative = false ∧ sum.coefficient = 0 ∧ sum.scale = 0 ∧
      charged done = [] := by
  have nothing : units scale done = 0 := by rw [← h.coefficient, none, Nat.zero_mul]
  have free := charged_eq_nil_of_units quantities nothing
  refine ⟨h.negative, none, ?_, free⟩
  rw [h.scale_eq, free]
  rfl

theorem charged_append_of_free (free : i.unitPrice.coefficient = 0) :
    charged (done ++ [i]) = charged done := by
  simp [charged, free]

theorem charged_append_of_ne (nonzero : i.unitPrice.coefficient ≠ 0) :
    charged (done ++ [i]) = charged done ++ [i] := by
  simp [charged, nonzero]

/-- The price of an item that is not for free. -/
theorem exists_price (small : i.quantity < Nat.pow 2 32) (quantity : i.quantity ≠ 0)
    (positive : i.unitPrice.isNegative = false) (nonzero : i.unitPrice.coefficient ≠ 0)
    (digits : i.unitPrice.coefficient * i.quantity < Decimal.limit) :
    ∃ price, i.price? = some price ∧ price.negative = false ∧
      price.coefficient = i.unitPrice.coefficient * i.quantity ∧
      price.scale = i.unitPrice.scale := by
  obtain ⟨q, made, sign, coefficient, point, -⟩ := OrderItem.exists_quantity small
  have unsigned : i.unitPrice.negative = false := by
    simpa [Decimal.isNegative, nonzero] using positive
  obtain ⟨price, h, parts⟩ := Decimal.exists_mul?_of_lt unsigned sign nonzero (by omega)
    (by rwa [coefficient]) (by rw [point]; exact i.unitPrice.scale_le)
  rw [coefficient, point, Nat.add_zero] at parts
  refine ⟨price, ?_, parts⟩
  rw [OrderItem.price?, made]
  exact h

/-- The sum after an item is the exact one if that fits. -/
theorem Adds.addItem (h : Adds scale done sum) (quantities : ∀ i ∈ done, i.quantity ≠ 0)
    (small : i.quantity < Nat.pow 2 32) (quantity : i.quantity ≠ 0)
    (positive : i.unitPrice.isNegative = false) (point : i.unitPrice.scale ≤ scale)
    (before : sum.scale ≤ scale) (fits : units scale (done ++ [i]) < Decimal.limit) :
    ∃ next, OrderRequest.addItem sum i = .ok next ∧ Adds scale (done ++ [i]) next := by
  have last : units scale [i] =
      i.unitPrice.coefficient * i.quantity * 10 ^ (scale - i.unitPrice.scale) := by
    simp [units]
  rw [units_append, last] at fits
  by_cases free : i.unitPrice.coefficient = 0
  · -- an item for free adds zero, and a sum with zero is the other number
    obtain ⟨q, made, -⟩ := OrderItem.exists_quantity small
    have price : i.price? = some .zero := by
      rw [OrderItem.price?, made]
      exact if_pos (.inl free)
    have same : sum.add? .zero = some sum := by
      unfold Decimal.add?
      split
      · rename_i none
        obtain ⟨sign, coefficient, point, -⟩ := h.eq_zero quantities none
        cases sum
        cases sign
        cases coefficient
        cases point
        rfl
      · exact if_pos rfl
    refine ⟨sum, addItem_eq_ok_iff.2 ⟨.zero, price, same⟩, h.negative, ?_, ?_⟩
    · rw [charged_append_of_free free, h.scale_eq]
    · rw [units_append, last, free, Nat.zero_mul, Nat.zero_mul, Nat.add_zero, h.coefficient]
  · have digits : i.unitPrice.coefficient * i.quantity < Decimal.limit := by
      have grows := Nat.le_mul_of_pos_right (i.unitPrice.coefficient * i.quantity)
        (Nat.pow_pos (n := scale - i.unitPrice.scale) (by decide : 0 < 10))
      omega
    obtain ⟨price, made, sign, coefficient, priceScale⟩ :=
      exists_price small quantity positive free digits
    have nonzero : price.coefficient ≠ 0 := by
      rw [coefficient]
      exact Nat.mul_ne_zero free quantity
    by_cases none : sum.coefficient = 0
    · obtain ⟨-, -, -, nothing⟩ := h.eq_zero quantities none
      refine ⟨price, addItem_eq_ok_iff.2 ⟨price, made, if_pos none⟩, sign, ?_, ?_⟩
      · rw [charged_append_of_ne free, nothing, priceScale]
        simp [finest]
      · rw [units_append, last, ← h.coefficient, none, coefficient, priceScale, Nat.zero_mul,
          Nat.zero_add]
    · rw [← h.coefficient, ← coefficient, ← priceScale] at fits
      obtain ⟨next, added, unsigned, larger, moved⟩ := Decimal.exists_add?_of_lt h.negative sign
        none nonzero before (priceScale ▸ point) fits
      refine ⟨next, addItem_eq_ok_iff.2 ⟨price, made, added⟩, unsigned, ?_, ?_⟩
      · rw [larger, charged_append_of_ne free, finest_append, h.scale_eq, priceScale]
        simp [finest]
      · rw [moved, units_append, last, h.coefficient, coefficient, priceScale]

/-- The rest of the items leaves the sum exact if all of them fit. -/
theorem Adds.foldlM (h : Adds scale done sum)
    (small : ∀ i ∈ done ++ rest, i.quantity < Nat.pow 2 32)
    (quantities : ∀ i ∈ done ++ rest, i.quantity ≠ 0)
    (positive : ∀ i ∈ done ++ rest, i.unitPrice.isNegative = false)
    (point : finest (done ++ rest) ≤ scale) (fits : units scale (done ++ rest) < Decimal.limit) :
    ∃ d, rest.foldlM OrderRequest.addItem sum = .ok d ∧ Adds scale (done ++ rest) d := by
  induction rest generalizing done sum with
  | nil =>
    rw [List.append_nil]
    exact ⟨sum, rfl, h⟩
  | cons i rest ih =>
    have mem : i ∈ done ++ i :: rest := by simp
    have within : ∀ j ∈ done, j ∈ done ++ i :: rest := fun j => List.mem_append_left _
    have scales := finest_le_iff.1 point
    have before : sum.scale ≤ scale := by
      rw [h.scale_eq, finest_le_iff]
      intro j there
      exact scales j (within j (List.mem_of_mem_filter there))
    rw [List.append_cons] at fits
    have part : units scale (done ++ [i]) < Decimal.limit := by
      rw [units_append] at fits
      omega
    obtain ⟨next, step, exact⟩ := h.addItem (fun j there => quantities j (within j there))
      (small i mem) (quantities i mem) (positive i mem) (scales i mem) before part
    rw [List.append_cons] at small quantities positive point ⊢
    obtain ⟨d, run, exact⟩ := ih exact small quantities positive point fits
    exact ⟨d, foldlM_cons_eq_ok_iff.2 ⟨next, step, run⟩, exact⟩

/-- An exact sum stands for the sum of the prices. -/
theorem Adds.value_eq (h : Adds scale done d)
    (positive : ∀ i ∈ done, i.unitPrice.isNegative = false) (point : finest done ≤ scale) :
    d.value = cost done := by
  have within : d.scale ≤ scale := by
    rw [h.scale_eq, finest_le_iff]
    intro i there
    exact finest_le_iff.1 point i (List.mem_of_mem_filter there)
  have split : (10 : ℚ) ^ scale = 10 ^ (scale - d.scale) * 10 ^ d.scale := by
    rw [← pow_add, Nat.sub_add_cancel within]
  rw [cost_eq positive point, ← h.coefficient, split, Decimal.value, h.negative,
    Decimal.ratio_false]
  push_cast
  field_simp

/-- The exact sum does not depend on the order of the items. -/
theorem Adds.unique {done' : List OrderItem} {d' : Decimal} (h : Adds scale done d)
    (h' : Adds scale done' d') (same : done'.Perm done) : d' = d := by
  have sign : d'.negative = d.negative := by rw [h.negative, h'.negative]
  have point : d'.scale = d.scale := by
    rw [h.scale_eq, h'.scale_eq]
    exact finest_perm (same.filter _)
  have digits : d'.coefficient = d.coefficient := by
    have sums := h'.coefficient
    rw [units_perm scale same, ← h.coefficient, point] at sums
    exact Nat.eq_of_mul_eq_mul_right (Nat.pow_pos (by decide)) sums
  cases d
  cases d'
  cases sign
  cases digits
  cases point
  rfl

end

/-- A total that fits 96 bits with as many digits after the point as the finest price has is the
exact sum of the prices, in whatever order the items stand. -/
theorem total_exact (valid : r.Valid) (fits : units (finest r.items) r.items < Nat.pow 2 96) :
    ∃ d, r.total = .ok d ∧ d.value = cost r.items ∧
      ∀ items, items.Perm r.items → total { r with items := items } = .ok d := by
  have run : ∀ items, items.Perm r.items →
      ∃ d, items.foldlM addItem .zero = .ok d ∧ Adds (finest r.items) items d := by
    intro items same
    have mem : ∀ i, i ∈ [] ++ items → i ∈ r.items := fun i there => same.mem_iff.1 there
    refine (adds_zero (finest r.items)).foldlM (fun i there => valid.quantity_lt i (mem i there))
      (fun i there => (valid.item (mem i there)).1) (fun i there => (valid.item (mem i there)).2)
      ?_ ?_
    · rw [List.nil_append, finest_perm same]
    · rw [List.nil_append, units_perm _ same]
      exact fits
  obtain ⟨d, total, exact⟩ := run r.items (List.Perm.refl _)
  refine ⟨d, total, exact.value_eq (fun i mem => (valid.item mem).2) (Nat.le_refl _), ?_⟩
  intro items same
  obtain ⟨d', total', exact'⟩ := run items same
  rw [exact.unique exact' same] at total'
  exact total'

/-- A price without a sign. -/
def price (coefficient scale : Nat) : Decimal :=
  (Decimal.ofParts? false coefficient scale).getD .zero

/-- Two widgets, a gadget, and a sample for free whose price has more digits than the others. -/
def basket : OrderRequest where
  items := [⟨"p1", "Widget", 2, price 1999 2⟩, ⟨"p2", "Gadget", 1, price 501 2⟩,
    ⟨"p3", "Sample", 1, price 0 4⟩]
  shippingAddress := "1 Main St"

theorem valid_basket : basket.Valid := by
  constructor <;> decide

theorem cost_basket : cost basket.items = 4499 / 100 := by
  simp [cost, basket, OrderItem.charge, Decimal.value, price, Decimal.ofParts?, Decimal.ratio]
  norm_num

theorem total_exact_basket :
    basket.Valid ∧ units (finest basket.items) basket.items < Nat.pow 2 96 ∧
      ∃ d, basket.total = .ok d ∧ d.value = 4499 / 100 ∧
        ∀ items, items.Perm basket.items → total { basket with items := items } = .ok d := by
  have fits : units (finest basket.items) basket.items < Nat.pow 2 96 := by decide
  refine ⟨valid_basket, fits, ?_⟩
  rw [← cost_basket]
  exact total_exact valid_basket fits

example : basket.total = .ok (price 4499 2) := by rfl

end OrderRequest

end Turnstile.Shop
