import Retail.Proofs.Receipt.Scenario

/-!
# Rows of receipts

The row of a line shows the base price of a unit. Where an order is charged, the base price of a
unit becomes what the charged total comes to for each, so rows state what is charged for the lines,
which is less than their catalogue prices where the subtotal lost something. Where it lost nothing,
rows state catalogue prices, and with shipping and the listed discounts they add up to the total.

## Main definitions

* `ReceiptLine.Charges`: a row that shows what is charged for its line
* `Receipt.Itemizes`: rows that show catalogue prices and add up to the total

## Main results

* `Order.charges_reconcile`: the rows of a reconciled order
* `Order.itemizes_reconcile`: those of an order whose subtotal lost nothing
* `Assembly.Loaded.rows_of_run`: both, after any number of reconciliations
* `Assembly.rows_differ`: rows below the catalogue prices
-/

namespace Retail

/-! ## Charged lines -/

/-- A share of nothing is nothing. -/
theorem Money.minor_share_of_zero {amount part whole share : Money} (hamount : amount.minor = 0)
    (h : amount.share part whole = .ok share) : share.minor = 0 := by
  have hunits : amount.minorUnits = 0 := by
    rw [Money.minorUnits_of_fits (by rw [hamount]; rfl), hamount]
  have hzero : ∀ (tie : Tie) {den : Nat}, 0 < den → divRound tie 0 den = 0 := fun tie den hden =>
    le_antisymm (divRound_le tie hden (by simp)) (le_divRound tie hden (by simp))
  obtain ⟨-, -, -, ⟨-, hshare⟩ | ⟨scale, hwhole, hshare⟩⟩ := Money.share_eq_ok h
  · exact hshare
  · rw [hshare, hunits, Int.zero_mul, Int.zero_mul, Int.zero_mul, hzero _ (by omega),
      hzero _ (Decimal.tenPow_pos scale)]

namespace Line

variable {line line' : Line} {amount : Money} {currency : Currency} {u : Unit}

/-- The base price of a unit is what the charged total comes to for each. -/
def Shared (line : Line) : Prop := line.totalPrice.divide line.quantity = .ok line.baseUnitPrice

theorem shared_applyDiscount (h : (applyDiscount amount).runOn line = (.ok u, line')) :
    line'.Shared := by
  obtain ⟨-, totalPrice, unitPrice, unitDiscount, -, hunit, -, rfl⟩ := applyDiscount_eq_ok.1 h
  exact hunit

theorem totalPrice_applyDiscount_zero (hamount : amount.minor = 0)
    (htotal : 0 ≤ line.totalPrice.minor)
    (h : (applyDiscount amount).runOn line = (.ok u, line')) :
    line'.totalPrice = line.totalPrice := by
  obtain ⟨-, totalPrice, _, _, rfl, -, -, rfl⟩ := applyDiscount_eq_ok.1 h
  simp only [hamount, Int.sub_zero]
  exact Money.floorAtZero_of_nonneg htotal

/-- Where a shared line is charged its catalogue price, so is each unit. -/
theorem Shared.baseTotal (h : line.Shared) (hdown : line.MarkedDown currency)
    (htotal : line.totalPrice = ⟨line.catalogueMinor, currency⟩) :
    line.baseTotal = .ok ⟨line.catalogueMinor, currency⟩ := by
  have hfits := hdown.fits_catalogueMinor
  unfold Shared at h
  rw [htotal] at h
  rw [Line.baseTotal, Money.times_eq_ok]
  by_cases hquantity : line.quantity = 0
  · rw [hquantity, Money.divide, if_pos (by rfl)] at h
    obtain h := Except.ok.inj h
    rw [← h, catalogueMinor, hquantity]
    simp [Money.zero, Money.minorUnits, fitsMinor]
  · have hunits := Money.minorUnits_of_fits (m := ⟨line.catalogueMinor, currency⟩) hfits
    have hminor := Money.minor_of_divide_times h hquantity hunits
    have hcurrency := Money.currency_divide h
    rw [Money.minorUnits_of_fits (hminor ▸ hdown.fits_discountedUnitPrice), hminor, hcurrency]
    exact ⟨hfits, rfl⟩

end Line

namespace Redistribution

variable {subtotal discount assigned : Money} {lines lines' : List Line} {shares : List Money}

/-- Whatever is spread, the lines are shared. -/
theorem shared_spread (h : spread subtotal discount assigned lines = (.ok shares, lines')) :
    ∀ line ∈ lines', line.Shared := by
  rcases lines with _ | ⟨first, rest⟩
  · obtain ⟨-, rfl⟩ := Prod.mk.inj h
    exact List.forall_mem_nil _
  · obtain ⟨portions, last, -, -, rfl, hportions, hlast, -⟩ :=
      exists_portions h (List.cons_ne_nil _ _)
    refine List.forall_mem_append.2 ⟨List.forall_mem_map.2 fun portion hportion => ?_,
      List.forall_mem_singleton.2 (Line.shared_applyDiscount hlast)⟩
    exact Line.shared_applyDiscount (hportions portion hportion).line_eq

/-- Where nothing is spread, no line loses anything. -/
theorem recharged_spread_zero (hdiscount : discount.minor = 0) (hassigned : assigned.minor = 0)
    (hlines : ∀ line ∈ lines, 0 ≤ line.totalPrice.minor)
    (h : spread subtotal discount assigned lines = (.ok shares, lines')) :
    List.Forall₂ (fun line line' : Line => line.Recharged line' ∧
      line'.totalPrice = line.totalPrice) lines lines' := by
  -- Induction on the lines; nothing is ever assigned.
  induction lines generalizing assigned shares lines' with
  | nil =>
    obtain ⟨-, rfl⟩ := Prod.mk.inj h
    exact .nil
  | cons line rest ih =>
    obtain ⟨hline, hrest⟩ := List.forall_mem_cons.1 hlines
    cases rest with
    | nil =>
      obtain ⟨remainder, line', hsub, happly, rfl, rfl⟩ := spread_singleton_eq_ok.1 h
      obtain ⟨-, rfl⟩ := Money.sub_eq_ok.1 hsub
      exact .cons ⟨Line.recharged_applyDiscount happly,
        Line.totalPrice_applyDiscount_zero (by simp only; omega) hline happly⟩ .nil
    | cons next rest =>
      obtain ⟨share, line', _, _, _, hshare, happly, hadd, hspread, rfl, rfl⟩ :=
        spread_cons_cons_eq_ok.1 h
      obtain ⟨-, rfl⟩ := Money.add_eq_ok.1 hadd
      have hzero := Money.minor_share_of_zero hdiscount hshare
      exact .cons ⟨Line.recharged_applyDiscount happly,
        Line.totalPrice_applyDiscount_zero hzero hline happly⟩
        (ih (by simp only; omega) hrest hspread)

end Redistribution

/-! ## Rows -/

namespace ReceiptLine

variable {catalogue : Catalogue} {line : Line} {row : ReceiptLine}

theorem exists_of_ofLine_eq_ok (h : ofLine catalogue line = .ok row) :
    row.unitPrice = line.baseUnitPrice ∧ line.baseTotal = .ok row.total := by
  unfold ofLine at h
  split at h
  · contradiction
  split at h
  · contradiction
  simp only [bind_eq_ok, mapError_eq_ok, pure_eq_ok] at h
  obtain ⟨total, htotal, rfl⟩ := h
  exact ⟨rfl, htotal⟩

/-- The row shows what is charged for the line: the price of a unit is the charged total in as many
parts, rounded for each, so what all units cost differs from it by less than one minor unit each. -/
structure Charges (line : Line) (row : ReceiptLine) : Prop where
  unitPrice : line.totalPrice.divide line.quantity = .ok row.unitPrice
  total : row.unitPrice.times line.quantity = .ok row.total
  near : line.quantity ≠ 0 → (row.total.minor - line.totalPrice.minorUnits).natAbs < line.quantity

/-- The row of a line that is shared shows what is charged for it. -/
theorem charges_of_shared (hline : line.Shared) (h : ofLine catalogue line = .ok row) :
    row.Charges line := by
  obtain ⟨hunit, htotal⟩ := exists_of_ofLine_eq_ok h
  rw [Line.baseTotal, ← hunit] at htotal
  rw [Line.Shared, ← hunit] at hline
  refine ⟨hline, htotal, fun hquantity => ?_⟩
  obtain ⟨hlow, hhigh⟩ := Money.divide_near hline hquantity
  rw [(Money.times_eq_ok.1 htotal).2, Money.minorUnits_of_fits (Money.fitsMinor_divide hline)]
  rw [Int.sub_mul, Int.one_mul] at hlow
  rw [Int.add_mul, Int.one_mul] at hhigh
  simp only
  omega

end ReceiptLine

namespace Receipt

variable {title : String} {order : Order} {catalogue : Catalogue} {receipt : Receipt}

/-- A receipt has one row for each line. -/
theorem rows_of_ofOrder_eq_ok (h : ofOrder title order catalogue = .ok receipt) :
    List.Forall₂ (fun line row => ReceiptLine.ofLine catalogue line = .ok row) order.lines
      receipt.lines := by
  simp only [ofOrder, bind_eq_ok, mapError_eq_ok, pure_eq_ok] at h
  obtain ⟨lines, hlines, _, -, _, -, _, -, rfl⟩ := h
  exact mapM_eq_ok.1 hlines

/-- Each row shows what its line costs after catalogue promotions. The rows come to the base
subtotal, and with shipping and without the listed discounts to the total. -/
structure Itemizes (order : Order) (receipt : Receipt) : Prop where
  rows : List.Forall₂ (fun line row => line.discountedUnitPrice.times line.quantity =
    .ok row.total) order.lines receipt.lines
  subtotal : Money.total order.currency (receipt.lines.map (·.total)) = .ok order.baseSubtotal
  total : ∃ sum off, order.baseSubtotal.add receipt.shipping = .ok sum ∧
    Money.total order.currency (receipt.discounts.map (·.amount)) = .ok off ∧
    sum.sub off = .ok receipt.total

end Receipt

namespace Order

variable {order order' : Order} {ledger ledger' : Ledger} {rest : List DiscountRecord}
  {promotions : Promotions} {vouchers : Vouchers} {now : Instant} {report : SyncReport}
  {title : String} {catalogue : Catalogue} {receipt : Receipt}

/-- What is charged for the lines of a reconciled order is what the subtotal lost, spread over lines
at their catalogue prices. -/
theorem exists_catalogued_of_reconcile (hheld : order.toBasket.HeldIn ledger rest)
    (hregular : order.toBasket.Regular) (hbook : promotions.Nonnegative) (h : order.Nonnegative)
    (hsold : ∀ line ∈ order.lines, line.Sold order.currency)
    (hreconcile : (reconcile promotions vouchers now).runOn (order, ledger) =
      (.ok report, (order', ledger'))) :
    ∃ lines off shares, (∀ line ∈ lines, line.Catalogued order'.currency) ∧
      order'.baseSubtotal.sub order'.subtotal = .ok off ∧
      (redistribute order'.baseSubtotal off).runOn lines = (.ok shares, order'.lines) := by
  obtain ⟨lines, settled, ledger₁, prices, charged, hlines, hsettled, -, -, happly, -, rfl⟩ :=
    exists_settled hheld hregular hreconcile
  obtain ⟨-, hpriced⟩ := hsettled.valued (Basket.forall_catalogued hbook hsold h.lines hlines)
  obtain ⟨undiscounted, _, _, hundiscounted, -, -, hcharge⟩ := applyDiscounts_eq_ok.1 happly
  obtain rfl := Except.ok.inj (hsettled.basePrices.1.symm.trans hundiscounted)
  obtain ⟨total, off, shares, lines', -, hoff, hspread, rfl⟩ := charge_eq_ok.1 hcharge
  rw [shown_eq]
  exact ⟨settled.lines, off, shares, hpriced, hoff, hspread⟩

/-- The rows of a reconciled order show what is charged. -/
theorem charges_reconcile (hheld : order.toBasket.HeldIn ledger rest)
    (hregular : order.toBasket.Regular) (hbook : promotions.Nonnegative) (h : order.Nonnegative)
    (hsold : ∀ line ∈ order.lines, line.Sold order.currency)
    (hreconcile : (reconcile promotions vouchers now).runOn (order, ledger) =
      (.ok report, (order', ledger')))
    (hreceipt : Receipt.ofOrder title order' catalogue = .ok receipt) :
    List.Forall₂ (fun line row => ReceiptLine.Charges line row) order'.lines receipt.lines := by
  obtain ⟨lines, off, shares, -, -, hspread⟩ :=
    exists_catalogued_of_reconcile hheld hregular hbook h hsold hreconcile
  have hshared := Redistribution.shared_spread hspread
  exact forall₂_imp_of_mem (Receipt.rows_of_ofOrder_eq_ok hreceipt)
    fun line hline _ _ hrow => ReceiptLine.charges_of_shared (hshared line hline) hrow

/-- Where the subtotal lost nothing, rows show catalogue prices. -/
theorem rows_of_subtotal_eq (hheld : order.toBasket.HeldIn ledger rest)
    (hregular : order.toBasket.Regular) (hbook : promotions.Nonnegative) (h : order.Nonnegative)
    (hsold : ∀ line ∈ order.lines, line.Sold order.currency)
    (hreconcile : (reconcile promotions vouchers now).runOn (order, ledger) =
      (.ok report, (order', ledger')))
    (hsubtotal : order'.subtotal = order'.baseSubtotal)
    (hreceipt : Receipt.ofOrder title order' catalogue = .ok receipt) :
    List.Forall₂ (fun line row => row.total = ⟨line.catalogueMinor, order'.currency⟩) order'.lines
      receipt.lines := by
  obtain ⟨lines, off, shares, hpriced, hoff, hspread⟩ :=
    exists_catalogued_of_reconcile hheld hregular hbook h hsold hreconcile
  have hzero : off.minor = 0 := by
    obtain ⟨-, rfl⟩ := Money.sub_eq_ok.1 hoff
    simp [hsubtotal]
  have hshared := Redistribution.shared_spread hspread
  have hkept := Redistribution.recharged_spread_zero hzero rfl (fun line hline => by
    rw [(hpriced line hline).totalPrice]
    exact (hpriced line hline).catalogueMinor_nonneg) hspread
  have hbase : ∀ line' ∈ order'.lines,
      line'.baseTotal = .ok ⟨line'.catalogueMinor, order'.currency⟩ := by
    intro line' hline'
    obtain ⟨line, hline, hsame, htotal⟩ := exists_left_of_forall₂ hkept hline'
    have hcatalogued := hpriced line hline
    have hminor : line'.catalogueMinor = line.catalogueMinor := by
      rw [hsame]
      rfl
    refine (hshared line' hline').baseTotal (hcatalogued.toMarkedDown.recharged hsame) ?_
    rw [htotal, hminor, hcatalogued.totalPrice]
  refine forall₂_imp_of_mem (Receipt.rows_of_ofOrder_eq_ok hreceipt) fun line hline _ _ hrow => ?_
  obtain ⟨-, htotal⟩ := ReceiptLine.exists_of_ofLine_eq_ok hrow
  exact Except.ok.inj (htotal.symm.trans (hbase line hline))

/-- Where the subtotal lost nothing, the rows come to the base subtotal. -/
theorem itemizes_reconcile (hheld : order.toBasket.HeldIn ledger rest)
    (hregular : order.toBasket.Regular) (hbook : promotions.Nonnegative) (h : order.Nonnegative)
    (hsold : ∀ line ∈ order.lines, line.Sold order.currency)
    (hshipping : fitsMinor order.baseShippingPrice.minor)
    (hreconcile : (reconcile promotions vouchers now).runOn (order, ledger) =
      (.ok report, (order', ledger')))
    (hsubtotal : order'.subtotal = order'.baseSubtotal)
    (hreceipt : Receipt.ofOrder title order' catalogue = .ok receipt) :
    receipt.Itemizes order' := by
  have hrows := rows_of_subtotal_eq hheld hregular hbook h hsold hreconcile hsubtotal hreceipt
  obtain ⟨hvalued, off, hdiscounted⟩ :=
    discounted_reconcile hheld hregular hbook h hsold hreconcile
  have hdelivery := (sameDeal_reconcile hheld hregular hreconcile).baseShippingPrice
  have hfits : fitsMinor off.minor := by
    have hlost := hdiscounted.lost
    have hnonneg := hdiscounted.nonneg
    obtain ⟨-, -, hcharged, hlowered⟩ := hdiscounted.lowered
    rw [OrderPrices.lostMinor, hsubtotal] at hlost
    rw [fitsMinor_iff] at hshipping ⊢
    simp only [hdelivery] at hlost hcharged hlowered
    omega
  obtain ⟨hpaid, listed, _, _, _, hbalance⟩ := hdiscounted.receipt hvalued hfits hreceipt
  obtain ⟨-, _, -, -, -, hprice, -, -⟩ := Receipt.exists_of_ofOrder_eq_ok hreceipt
  refine ⟨?_, ?_, order'.baseTotal, listed, ?_, hbalance.listed, hbalance.total⟩
  · refine forall₂_imp_of_mem hrows fun line hline row _ hrow => ?_
    rw [hrow]
    exact (hvalued.lines line hline).times_discountedUnitPrice
  · rw [Money.total_eq_ok, hvalued.baseSubtotal, List.map_map]
    have htotals : order'.lines.map (fun line => line.catalogueMinor) =
        receipt.lines.map (fun row => row.total.minor) :=
      map_eq_of_forall₂ hrows fun line row hrow => by rw [hrow]
    refine ⟨fun amount hamount => ?_, ?_⟩
    · obtain ⟨row, hrow, rfl⟩ := List.mem_map.1 hamount
      obtain ⟨line, -, hline⟩ := exists_left_of_forall₂ hrows hrow
      rw [hline]
    · rw [htotals]
      rfl
  · rw [hprice]
    exact hvalued.baseTotal

end Order

/-! ## Assembled scenarios -/

namespace Assembly

variable {a : Assembly} {times : List Instant} {now : Instant} {scenario : Scenario}

/-- Where the shop lists no price and no value of a discount below zero, the rows of orders show
what is charged for the lines whenever the scenario was reconciled. Where the subtotal lost nothing,
they show catalogue prices and add up. -/
theorem Loaded.rows_of_run (h : a.Loaded) (hnonneg : a.Nonnegative)
    (hrun : Scenario.Run a.scenario (times ++ [now]) scenario) :
    ∀ order ∈ scenario.orders, ∀ title catalogue receipt,
      Receipt.ofOrder title order.2 catalogue = .ok receipt →
        List.Forall₂ (fun line row => ReceiptLine.Charges line row) order.2.lines receipt.lines ∧
        (order.2.subtotal = order.2.baseSubtotal → receipt.Itemizes order.2) := by
  intro order horder title catalogue receipt hreceipt
  obtain ⟨earlier, hearlier, hreconcile⟩ := Scenario.run_concat_iff.1 hrun
  have hheld := hearlier.held h.held
  have hregular := hearlier.regular h.held h.regular
  obtain ⟨-, -, horders⟩ := hheld.turns hreconcile
  obtain ⟨source, hsource, -, hturns⟩ := exists_left_of_forall₂ horders horder
  obtain ⟨placed, hplaced, -, hdeal⟩ :=
    exists_left_of_forall₂ (hearlier.sameDeal_orders h.held h.regular) hsource
  have hprices := (h.nonnegative hnonneg placed hplaced).sameDeal hdeal
  have hbook : earlier.promotions.Nonnegative := by
    rw [hearlier.eq]
    exact hnonneg.promotions
  have hcoherent := (h.coherent_of_run hearlier).orders source hsource
  have hmine := hregular _ (Scenario.mem_baskets_of_mem_orders hsource)
  obtain ⟨_, _, _, _, _, -, hin, hturn⟩ := hturns
  exact ⟨Order.charges_reconcile hin hmine hbook hprices hcoherent.lines hturn hreceipt,
    fun hsubtotal => Order.itemizes_reconcile hin hmine hbook hprices hcoherent.lines
      hcoherent.shipping.fits hturn hsubtotal hreceipt⟩

/-- The base subtotal and the subtotal of an order, the rows of its receipt and the total. -/
structure ShownRows where
  base : Money
  charged : Money
  rows : List Money
  total : Money
  deriving DecidableEq

/-- What the receipt of an order shows of its rows and totals, if there is a receipt. -/
def ShownRows.ofOrder (catalogue : Catalogue) (order : Order) : Option ShownRows :=
  (Receipt.ofOrder "Order" order catalogue).toOption.map fun receipt =>
    ⟨order.baseSubtotal, order.subtotal, receipt.lines.map (·.total), receipt.total⟩

theorem ShownRows.ofOrder_eq_some {catalogue : Catalogue} {order : Order} {shown : ShownRows} :
    ofOrder catalogue order = some shown ↔
      ∃ receipt, Receipt.ofOrder "Order" order catalogue = .ok receipt ∧
        ⟨order.baseSubtotal, order.subtotal, receipt.lines.map (·.total), receipt.total⟩ =
          shown := by
  rw [ofOrder]
  cases Receipt.ofOrder "Order" order catalogue with
  | error e => simp [Except.toOption]
  | ok receipt => simp [Except.toOption]

/-- The novel at 6.00 is the row of an order whose voucher takes a quarter off shipping. -/
theorem rows_saleWithVoucher : ∃ a scenario,
    ofSet (saleWithVoucher "shipping") = .ok a ∧ a.Nonnegative ∧
    Scenario.Run a.scenario [⟨1710000000000000000⟩, ⟨1800000000000000000⟩] scenario ∧
    scenario.orders.map (fun order => ShownRows.ofOrder scenario.catalogue order.2) =
      [some ⟨⟨600, .gbp⟩, ⟨600, .gbp⟩, [⟨600, .gbp⟩], ⟨750, .gbp⟩⟩] ∧
    ∀ order ∈ scenario.orders, ∃ receipt,
      Receipt.ofOrder "Order" order.2 scenario.catalogue = .ok receipt ∧
      receipt.Itemizes order.2 := by
  have hcomputed : (replay? (saleWithVoucher "shipping")
      [⟨1710000000000000000⟩, ⟨1800000000000000000⟩]).map (fun (a, scenario) =>
        (decide a.Nonnegative,
          scenario.orders.map fun order => ShownRows.ofOrder scenario.catalogue order.2)) =
      some (true, [some ⟨⟨600, .gbp⟩, ⟨600, .gbp⟩, [⟨600, .gbp⟩], ⟨750, .gbp⟩⟩]) := by
    decide +kernel
  obtain ⟨⟨a, scenario⟩, hreplay, hshown⟩ := Option.map_eq_some_iff.1 hcomputed
  obtain ⟨hload, hrun⟩ := replay?_eq_some.1 hreplay
  simp only [Prod.mk.injEq, decide_eq_true_eq] at hshown
  obtain ⟨hnonneg, hrows⟩ := hshown
  refine ⟨a, scenario, hload, hnonneg, hrun, hrows, fun order horder => ?_⟩
  have hrow := List.eq_of_mem_singleton (hrows ▸ List.mem_map_of_mem horder)
  obtain ⟨receipt, hreceipt, hshown⟩ := ShownRows.ofOrder_eq_some.1 hrow
  obtain ⟨hbase, hcharged, -, -⟩ := ShownRows.mk.inj hshown
  have hruns : Scenario.Run a.scenario
      ([⟨1710000000000000000⟩] ++ [⟨1800000000000000000⟩]) scenario := hrun
  exact ⟨receipt, hreceipt, (Loaded.rows_of_run (loaded_ofSet hload) hnonneg hruns order horder _ _
    receipt hreceipt).2 (hcharged.trans hbase.symm)⟩

/-- Two paperbacks at 8.00 with a tenth off the order are a row of 14.40, not of 16.00. With
shipping and without the listed tenth the row comes to 14.80, and the total is 16.40. -/
theorem rows_differ : ∃ a scenario,
    ofSet (springShop "subtotal_discount") = .ok a ∧ a.Nonnegative ∧
    (Scenario.reconcile ⟨1800000000000000000⟩).runOn a.scenario = (.ok (), scenario) ∧
    scenario.orders.map (fun order => order.2.lines.map fun line =>
      line.discountedUnitPrice.times line.quantity) = [[.ok ⟨1600, .gbp⟩]] ∧
    scenario.orders.map (fun order => ShownRows.ofOrder scenario.catalogue order.2) =
      [some ⟨⟨1600, .gbp⟩, ⟨1440, .gbp⟩, [⟨1440, .gbp⟩], ⟨1640, .gbp⟩⟩] ∧
    ∀ order ∈ scenario.orders, ∃ receipt,
      Receipt.ofOrder "Order" order.2 scenario.catalogue = .ok receipt ∧
      ¬receipt.Itemizes order.2 := by
  have hcomputed : (replay? (springShop "subtotal_discount") [⟨1800000000000000000⟩]).map
      (fun (a, scenario) => (decide a.Nonnegative,
        scenario.orders.map fun order => order.2.lines.map fun line =>
          line.discountedUnitPrice.times line.quantity,
        scenario.orders.map fun order => ShownRows.ofOrder scenario.catalogue order.2)) =
      some (true, [[.ok ⟨1600, .gbp⟩]],
        [some ⟨⟨1600, .gbp⟩, ⟨1440, .gbp⟩, [⟨1440, .gbp⟩], ⟨1640, .gbp⟩⟩]) := by
    decide +kernel
  obtain ⟨⟨a, scenario⟩, hreplay, hshown⟩ := Option.map_eq_some_iff.1 hcomputed
  obtain ⟨hload, hrun⟩ := replay?_eq_some.1 hreplay
  simp only [Prod.mk.injEq, decide_eq_true_eq] at hshown
  obtain ⟨hnonneg, hlines, hrows⟩ := hshown
  refine ⟨a, scenario, hload, hnonneg, Scenario.run_singleton_iff.1 hrun, hlines, hrows,
    fun order horder => ?_⟩
  have hrow := List.eq_of_mem_singleton (hrows ▸ List.mem_map_of_mem horder)
  obtain ⟨receipt, hreceipt, hshown⟩ := ShownRows.ofOrder_eq_some.1 hrow
  obtain ⟨hbase, -, htotals, -⟩ := ShownRows.mk.inj hshown
  refine ⟨receipt, hreceipt, fun hitemizes => ?_⟩
  have hsum := hitemizes.subtotal
  rw [htotals, hbase] at hsum
  have hminor : (1600 : Int) = 1440 := congrArg Money.minor (Money.total_eq_ok.1 hsum).2
  contradiction

end Assembly

end Retail
