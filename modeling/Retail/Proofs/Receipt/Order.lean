import Retail.Proofs.Announced
import Retail.Proofs.Arithmetic.Order
import Retail.Proofs.Order.Bounds
import Retail.Proofs.Receipt.Balance

/-!
# Receipts of orders

A record that took nothing off is not listed, and no record took off less than nothing. So what the
listed records took off is what all of them did, which is what the base total lost to the prices
that are charged.

## Main definitions

* `Order.Nonnegative`: prices and values of discounts that are not below zero
* `Order.Discounted`: an order whose records took off what its prices lost

## Main results

* `Order.discounted_reconcile`: reconciled orders
* `Order.Discounted.receipt`: the receipt states what the order is charged, and adds up
-/

namespace Retail

/-- Amounts that are not below zero come to as much without those that are zero. -/
theorem Money.total_filter_pos {records : List DiscountRecord} {currency : Currency} {off : Money}
    (hamounts : ∀ record ∈ records, 0 ≤ record.amount.minor ∧ fitsMinor record.amount.minor)
    (h : Money.total currency (records.map (·.amount)) = .ok off) :
    Money.total currency ((records.filter fun record => 0 < record.amount.minorUnits).map
      (·.amount)) = .ok off := by
  obtain ⟨hcurrencies, rfl⟩ := Money.total_eq_ok.1 h
  rw [Money.total_eq_ok]
  refine ⟨fun amount hamount => ?_, ?_⟩
  · obtain ⟨record, hrecord, rfl⟩ := List.mem_map.1 hamount
    exact hcurrencies _ (List.mem_map_of_mem (List.mem_filter.1 hrecord).1)
  congr 1
  clear h hcurrencies
  induction records with
  | nil => rfl
  | cons record rest ih =>
    obtain ⟨⟨hnonneg, hfits⟩, hrest⟩ := List.forall_mem_cons.1 hamounts
    rw [List.filter_cons, Money.minorUnits_of_fits hfits]
    split
    · simp only [List.map_cons, List.sum_cons, ih hrest]
    · rename_i hzero
      rw [decide_eq_true_eq] at hzero
      simp only [List.map_cons, List.sum_cons, ← ih hrest]
      omega

namespace Receipt

variable {title : String} {order : Order} {catalogue : Catalogue} {receipt : Receipt}

/-- What the receipt of an order says besides its rows. -/
theorem exists_of_ofOrder_eq_ok (h : ofOrder title order catalogue = .ok receipt) :
    ∃ off total, Money.total order.currency (receipt.discounts.map (·.amount)) = .ok off ∧
      order.baseTotal.sub off = .ok total ∧ receipt.total = total.floorAtZero ∧
      receipt.shipping = order.baseShippingPrice ∧
      receipt.discounts.map (·.amount) =
        (order.discounts.filter fun record => 0 < record.amount.minorUnits).map (·.amount) ∧
      Money.total order.currency (order.lines.map (·.undiscountedTotalPrice)) =
        .ok receipt.subtotal := by
  simp only [ofOrder, bind_eq_ok, mapError_eq_ok, fullSubtotal, pure_eq_ok] at h
  obtain ⟨lines, -, off, hoff, total, htotal, subtotal, hsubtotal, rfl⟩ := h
  exact ⟨off, total, hoff, htotal, rfl, rfl, by simp [Function.comp_def], hsubtotal⟩

end Receipt

namespace Order

variable {order order' : Order} {ledger ledger' : Ledger} {rest : List DiscountRecord}
  {promotions : Promotions} {vouchers : Vouchers} {now : Instant} {report : SyncReport}

/-- No price of the order is below zero, and no value of its discounts but those of promotions. -/
structure Nonnegative (order : Order) : Prop where
  lines : ∀ line ∈ order.lines, 0 ≤ line.undiscountedUnitPrice.minor
  shipping : 0 ≤ order.baseShippingPrice.minor
  values : ∀ record ∈ order.otherDiscounts, 0 ≤ record.value.mantissa

theorem Nonnegative.sameDeal (h : order.Nonnegative) (hdeal : order.SameDeal order') :
    order'.Nonnegative := by
  refine ⟨fun line hline => ?_, ?_, fun record hrecord => ?_⟩
  · obtain ⟨source, hsource, hsame⟩ := exists_left_of_forall₂ hdeal.lines hline
    rw [hsame.undiscountedUnitPrice]
    exact h.lines source hsource
  · rw [hdeal.baseShippingPrice]
    exact h.shipping
  · obtain ⟨source, hsource, hsame⟩ := exists_left_of_forall₂ hdeal.others hrecord
    rw [hsame]
    exact h.values source hsource

/-- The records of a settled order have values that are not below zero. -/
theorem Nonnegative.settled {lines : List Line} {shipping : Money} {settled : Basket}
    (h : order.Nonnegative) (hbook : promotions.Nonnegative)
    (hsettled : ({ order with lines } : Order).toBasket.Settled shipping promotions now settled)
    (hregular : settled.Regular) : ∀ record ∈ settled.discounts, 0 ≤ record.value.mantissa := by
  rw [hregular.discounts_eq]
  refine List.forall_mem_append.2 ⟨?_, fun record hrecord => ?_⟩
  · rw [hsettled.otherDiscounts_eq]
    exact h.values
  · obtain ⟨rule, hrule⟩ := hsettled.announces hrecord
    obtain ⟨key, -, hentered⟩ := Option.bind_eq_some_iff.1 hrule.entered
    exact Decimal.mantissa_nonneg_of_sameValue hrule.value (hbook.get? hentered)

/-- The records of the order took off what its prices lost, each of them a part of it, and neither
price is larger than before or below zero. -/
structure Discounted (off : Money) (order : Order) : Prop where
  listed : Money.total order.currency (order.discounts.map (·.amount)) = .ok off
  amounts : ∀ record ∈ order.discounts,
    0 ≤ record.amount.minor ∧ record.amount.minor ≤ off.minor
  lowered : OrderPrices.Lowered ⟨order.baseSubtotal, order.baseShippingPrice⟩
    ⟨order.subtotal, order.shippingPrice⟩
  lost : off.minor = OrderPrices.lostMinor ⟨order.baseSubtotal, order.baseShippingPrice⟩
    ⟨order.subtotal, order.shippingPrice⟩
  total : order.baseTotal.sub off = .ok order.total

theorem Discounted.nonneg {off : Money} (h : order.Discounted off) : 0 ≤ off.minor :=
  h.lost ▸ h.lowered.lostMinor_nonneg

theorem Discounted.le {off : Money} (h : order.Discounted off)
    (hvalued : order.Valued order.baseShippingPrice) : off.minor ≤ order.baseTotal.minor := by
  obtain ⟨-, hsum, -⟩ := hvalued.bounds
  have hlost := h.lost
  obtain ⟨hsubtotal, -, hshipping, -⟩ := h.lowered
  unfold OrderPrices.lostMinor at hlost
  simp only at hlost hsubtotal hshipping
  omega

/-- Records with values that are not below zero are taken off the base prices. -/
theorem discounted_applyDiscounts {prices : OrderPrices}
    (h : (applyDiscounts vouchers true).runOn (order, ledger) = (.ok prices, (order', ledger')))
    (hbase : order.toBasket.subtotal = .ok order.baseSubtotal)
    (htotal : order.baseSubtotal.add order.baseShippingPrice = .ok order.baseTotal)
    (hnonneg : OrderPrices.Nonnegative ⟨order.baseSubtotal, order.baseShippingPrice⟩)
    (hvalues : ∀ record ∈ order.discounts, 0 ≤ record.value.mantissa)
    (hkinds : ∀ record ∈ order.discounts, record.kind ≠ .promotion) :
    ∃ off, order'.Discounted off := by
  obtain ⟨undiscounted, updates, hundiscounted, hrecords, hcharged⟩ :=
    priceRecords_of_applyDiscounts_eq_ok h
  obtain rfl := Except.ok.inj (hbase.symm.trans hundiscounted)
  have hcurrency := Basket.currency_subtotal hbase
  obtain ⟨hlowered, hamounts⟩ := lowered_priceRecords hvalues hnonneg hrecords
  have hkinds' : ∀ record ∈ order'.discounts, record.kind ≠ .promotion := by
    intro record hrecord
    obtain ⟨source, hsource, hrepriced⟩ :=
      exists_left_of_forall₂ (priceRecords_repriced hrecords) hrecord
    rw [hrepriced.eq]
    exact hkinds source hsource
  have hconserved := priceRecords_conserves hrecords hcurrency
  rw [List.filter_eq_self.2 fun record hrecord => by simpa using hkinds' record hrecord]
    at hconserved
  obtain ⟨hsame, hsum⟩ := Money.add_eq_ok.1 htotal
  obtain ⟨-, hpaid⟩ := Money.add_eq_ok.1 hcharged
  have hpaidIn : order'.subtotal.currency = order.currency :=
    (areIn_priceRecords ⟨hcurrency, hsame.symm.trans hcurrency⟩ hrecords).subtotal
  have hbaseTotal : order.baseTotal.sub ⟨order.baseSubtotal.minor + order.baseShippingPrice.minor -
      (order'.subtotal.minor + order'.shippingPrice.minor), order.currency⟩ =
        .ok order'.total := by
    rw [Money.sub_eq_ok, hsum, hpaid, hcurrency, hpaidIn]
    refine ⟨rfl, ?_⟩
    simp only [Money.mk.injEq, and_true]
    omega
  have heq := (charged_applyDiscounts h).eq
  rw [heq]
  exact ⟨_, hconserved, fun record hrecord => hamounts record hrecord (hkinds' record hrecord),
    hlowered, rfl, hbaseTotal⟩

/-- A reconciled order has the base prices of its lines, and its records are taken off them. -/
theorem discounted_reconcile (hheld : order.toBasket.HeldIn ledger rest)
    (hregular : order.toBasket.Regular) (hbook : promotions.Nonnegative) (h : order.Nonnegative)
    (hsold : ∀ line ∈ order.lines, line.Sold order.currency)
    (hreconcile : (reconcile promotions vouchers now).runOn (order, ledger) =
      (.ok report, (order', ledger'))) :
    order'.Valued order'.baseShippingPrice ∧ ∃ off, order'.Discounted off := by
  have hvalued := (reconciled hheld hregular hreconcile).valued hbook hsold h.lines
  have hdelivery := (sameDeal_reconcile hheld hregular hreconcile).baseShippingPrice
  obtain ⟨hnonneg, -, -⟩ := hvalued.bounds
  obtain ⟨lines, settled, ledger₁, prices, charged, -, hsettled, hregular', -, happly, -, rfl⟩ :=
    exists_settled hheld hregular hreconcile
  obtain ⟨hbase, htotal⟩ := hsettled.basePrices
  have hsubtotal : (charged.shown vouchers).baseSubtotal = settled.baseSubtotal := by
    rw [shown_eq, (charged_applyDiscounts happly).eq]
  rw [hsubtotal] at hnonneg
  refine ⟨hdelivery.symm ▸ hvalued, ?_⟩
  obtain ⟨off, hdiscounted⟩ := discounted_applyDiscounts happly hbase htotal
    ⟨hnonneg, h.shipping⟩ (h.settled hbook hsettled hregular') hregular'.kinds
  rw [shown_eq]
  exact ⟨off, hdiscounted.listed, hdiscounted.amounts, hdiscounted.lowered, hdiscounted.lost,
    hdiscounted.total⟩

/-- The receipt of an order states what is charged, and adds up. -/
theorem Discounted.receipt {title : String} {catalogue : Catalogue} {receipt : Receipt}
    {off : Money} (h : order.Discounted off) (hvalued : order.Valued order.baseShippingPrice)
    (hfits : fitsMinor off.minor) (hreceipt : Receipt.ofOrder title order catalogue = .ok receipt) :
    receipt.total = order.total ∧ receipt.Balanced order.toBasket := by
  have hle := h.le hvalued
  obtain ⟨listed, total, hlisted, hrest, hfloored, hshipping, hrows, hsubtotal⟩ :=
    Receipt.exists_of_ofOrder_eq_ok hreceipt
  have hlisted' : Money.total order.currency (receipt.discounts.map (·.amount)) = .ok off := by
    rw [hrows]
    refine Money.total_filter_pos (fun record hrecord => ?_) h.listed
    obtain ⟨hamount, hpart⟩ := h.amounts record hrecord
    refine ⟨hamount, ?_⟩
    rw [fitsMinor_iff] at hfits ⊢
    omega
  obtain rfl := Except.ok.inj (hlisted'.symm.trans hlisted)
  obtain rfl := Except.ok.inj (h.total.symm.trans hrest)
  have hpaid : receipt.total = order.total := by
    rw [hfloored]
    refine Money.floorAtZero_of_nonneg ?_
    rw [(Money.sub_eq_ok.1 h.total).2]
    simp only
    omega
  refine ⟨hpaid, (hshipping ▸ hvalued).balanced hlisted ?_ h.nonneg hle hsubtotal⟩
  rw [hpaid]
  exact h.total

end Order

end Retail
