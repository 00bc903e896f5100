import Retail.Proofs.Again.Sales
import Retail.Proofs.History.Sales
import Retail.Proofs.Isolation.Basket

/-!
# Checkouts and orders under other keys

Where a checkout or an order can be reconciled, so can one that is the same but for the keys of its
records, whatever else is in the ledgers. Both come out the same again but for the keys.

## Main definitions

* `Checkout.Rekeyed`, `Order.Rekeyed`: the same but for the keys of the records

## Main results

* `Checkout.Rekeyed.exists_reconcile`: checkouts
* `Order.Rekeyed.exists_applyDiscounts`: what the records take off an order
* `Order.Rekeyed.exists_reconcile`: orders
-/

namespace Retail

/-! ## Baskets -/

section Basket

variable {basket other : Basket} {promotions : Promotions} {now : Instant}

/-- Records that say the same are alike. -/
theorem forall₂_alike_of_map_eq {records others : List DiscountRecord}
    (h : others.map (·.toDiscount) = records.map (·.toDiscount)) :
    List.Forall₂ (fun a b : DiscountRecord => a.Alike b.toDiscount) records others := by
  have hsame : List.Forall₂ (fun a b => b = a) (records.map (·.toDiscount))
      (others.map (·.toDiscount)) := by
    rw [h]
    exact List.forall₂_same.2 fun _ _ => rfl
  rw [List.forall₂_map_left_iff, List.forall₂_map_right_iff] at hsame
  exact hsame.imp fun a b hab => hab ▸ Discount.Alike.refl a.toDiscount

theorem Line.Rekeyed.alike {line other : Line} (h : line.Rekeyed other) : line.Alike other :=
  ⟨h.same, forall₂_alike_of_map_eq h.discounts⟩

namespace Basket

theorem Rekeyed.samePromotions (h : basket.Rekeyed other) : basket.SamePromotions other := by
  refine ⟨?_, h.lines.imp fun _ _ hline => hline.alike, forall₂_alike_of_map_eq h.orderPromotions,
    fun _ => .inl ?_⟩
  · rw [h.eq]
  · rw [h.eq]

/-- The lines of both baskets get their catalogue prices. -/
theorem Rekeyed.exists_cataloguePrices {lines : List Line} {u : Unit} (h : basket.Rekeyed other)
    (hprices : (cataloguePrices promotions basket.channel now).runOn basket.lines =
      (.ok u, lines)) :
    ∃ lines₂, (cataloguePrices promotions other.channel now).runOn other.lines = (.ok u, lines₂) ∧
      Rekeyed { basket with lines } { other with lines := lines₂ } := by
  have hchannel : other.channel = basket.channel := by rw [h.eq]
  obtain ⟨lines₂, hprices₂, hsame⟩ :=
    cataloguePrices_congr (h.lines.imp fun _ _ hline => hline.same.sameGoods) hprices
  refine ⟨lines₂, hchannel ▸ hprices₂, ?_, ?_, h.discounts⟩
  · rw [h.eq]
  · exact Line.forall_rekeyed_of_sameRecords h.lines (sameRecords_cataloguePrices hprices)
      (sameRecords_cataloguePrices hprices₂) hsame

theorem Rekeyed.quantity (h : basket.Rekeyed other) : other.quantity = basket.quantity :=
  quantity_congr (h.lines.imp fun _ _ hline => hline.same.sameGoods)

theorem Rekeyed.subtotal (h : basket.Rekeyed other) : other.subtotal = basket.subtotal := by
  have htotals := h.lines.imp fun _ _ hline => hline.same.baseTotal
  rw [Basket.subtotal, Basket.subtotal, baseSubtotal_congr htotals, h.eq]

end Basket

end Basket

/-! ## Checkouts -/

namespace Checkout

variable {checkout other checkout' kept : Checkout} {ledger ledger' ledger₂ : Ledger}
  {rest rest₂ : List DiscountRecord} {channel : Channel} {promotions : Promotions}
  {vouchers : Vouchers} {now : Instant} {u : Unit}

/-- The checkouts are the same, and their records say the same under keys of their own. -/
structure Rekeyed (checkout other : Checkout) : Prop
    extends Basket.Rekeyed checkout.toBasket other.toBasket where
  shippingMethod : other.shippingMethod = checkout.shippingMethod
  isShippingRequired : other.isShippingRequired = checkout.isShippingRequired

theorem Rekeyed.deliveryPrice (h : checkout.Rekeyed other) :
    other.deliveryPrice channel = checkout.deliveryPrice channel := by
  have hcurrency : other.currency = checkout.currency := by rw [h.eq]
  rw [Checkout.deliveryPrice, Checkout.deliveryPrice, h.shippingMethod, h.isShippingRequired,
    hcurrency]

theorem Rekeyed.validateVoucher (h : checkout.Rekeyed other)
    (htidy : ∀ line ∈ checkout.lines, line.Tidy) :
    other.validateVoucher vouchers = checkout.validateVoucher vouchers := by
  have htidy₂ : ∀ line ∈ other.lines, line.Tidy := by
    intro line hline
    obtain ⟨source, hsource, hsame⟩ := exists_left_of_forall₂ h.lines hline
    exact hsame.tidy (htidy source hsource)
  rw [Checkout.validateVoucher, Checkout.validateVoucher, h.toRekeyed.quantity,
    baseSubtotalAfterVouchers_congr (h.lines.imp fun _ _ hline => hline.same) htidy htidy₂, h.eq]
  rfl

/-- Both checkouts lose their vouchers, or neither does. -/
theorem Rekeyed.exists_dropInvalidVoucher (h : checkout.Rekeyed other)
    (htidy : ∀ line ∈ checkout.lines, line.Tidy) (ledger₂ : Ledger)
    (hdrop : (dropInvalidVoucher vouchers now).runOn (checkout, ledger) =
      (.ok u, (kept, ledger'))) :
    ∃ kept₂, (dropInvalidVoucher vouchers now).runOn (other, ledger₂) =
      (.ok u, (kept₂, ledger₂)) ∧ kept.Rekeyed kept₂ := by
  have hcode : other.voucherCode = checkout.voucherCode := by rw [h.eq]
  have husable : ∀ text, vouchers.usableCode text other.channel now =
      vouchers.usableCode text checkout.channel now := fun _ => by rw [h.eq]
  have hdropped : Rekeyed { checkout with voucher := none, voucherCode := none }
      { other with voucher := none, voucherCode := none } := by
    refine ⟨⟨?_, h.lines, h.discounts⟩, h.shippingMethod, h.isShippingRequired⟩
    rw [h.eq]
  simp only [dropInvalidVoucher, Step.runOn_get_bind, hcode, husable,
    h.validateVoucher htidy] at hdrop ⊢
  split at hdrop
  · obtain rfl := (Prod.mk.inj (Prod.mk.inj hdrop).2).1
    exact ⟨other, rfl, h⟩
  · split at hdrop
    · obtain rfl := (Prod.mk.inj (Prod.mk.inj hdrop).2).1
      exact ⟨other, rfl, h⟩
    · obtain rfl := (Prod.mk.inj (Prod.mk.inj hdrop).2).1
      exact ⟨_, rfl, hdropped⟩
    · obtain rfl := (Prod.mk.inj (Prod.mk.inj hdrop).2).1
      exact ⟨_, rfl, hdropped⟩
    · simp at hdrop

/-- Both checkouts show what their voucher takes off. -/
theorem Rekeyed.exists_showVoucher (h : checkout.Rekeyed other) (ledger₂ : Ledger)
    (hshow : (showVoucher channel vouchers).runOn (checkout, ledger) =
      (.ok u, (checkout', ledger'))) :
    ∃ other', (showVoucher channel vouchers).runOn (other, ledger₂) =
      (.ok u, (other', ledger₂)) ∧ checkout'.Rekeyed other' := by
  have hvoucher : other.voucher = checkout.voucher := by rw [h.eq]
  obtain ⟨-, ⟨hnone, rfl⟩ | ⟨key, voucher, amount, hkey, hfound, hamount, rfl⟩⟩ :=
    showVoucher_eq_ok.1 hshow
  · exact ⟨other, showVoucher_eq_ok.2 ⟨rfl, .inl ⟨hvoucher.trans hnone, rfl⟩⟩, h⟩
  · have hamount₂ : other.voucherAmount channel voucher = .ok amount :=
      (voucherAmount_congr h.toRekeyed.samePromotions h.shippingMethod
        h.isShippingRequired).trans hamount
    refine ⟨_, showVoucher_eq_ok.2
      ⟨rfl, .inr ⟨key, voucher, amount, hvoucher.trans hkey, hfound, hamount₂, rfl⟩⟩,
      ⟨?_, h.lines, h.discounts⟩, h.shippingMethod, h.isShippingRequired⟩
    rw [h.eq]

/-- A checkout under other keys is reconciled to the same, whatever else is in its ledger. -/
theorem Rekeyed.exists_reconcile {report : SyncReport} (h : checkout.Rekeyed other)
    (hregular : checkout.toBasket.Regular) (hheld : checkout.toBasket.HeldIn ledger rest)
    (hheld₂ : other.toBasket.HeldIn ledger₂ rest₂)
    (hreconcile : (reconcile channel promotions vouchers now).runOn (checkout, ledger) =
      (.ok report, (checkout', ledger'))) :
    ∃ report₂ other' ledger₂', (reconcile channel promotions vouchers now).runOn (other, ledger₂) =
      (.ok report₂, (other', ledger₂')) ∧ checkout'.Rekeyed other' := by
  obtain ⟨lines, kept, basket, hlines, hdrop, hbasket, hshow⟩ := reconcile_eq_ok.1 hreconcile
  obtain ⟨lines₂, hlines₂, hpriced⟩ := h.toRekeyed.exists_cataloguePrices hlines
  have hpriced' : Rekeyed { checkout with lines } { other with lines := lines₂ } :=
    ⟨hpriced, h.shippingMethod, h.isShippingRequired⟩
  have htidy : ∀ line ∈ lines, line.Tidy :=
    Basket.forall_tidy (sameRecords_cataloguePrices hlines) hregular.lines
  obtain ⟨kept₂, hdrop₂, hkept⟩ :=
    hpriced'.exists_dropInvalidVoucher htidy ledger₂ hdrop
  have hsame : checkout.toBasket.SameRecords { checkout.toBasket with lines } :=
    ⟨rfl, sameRecords_cataloguePrices hlines⟩
  have hsame₂ : other.toBasket.SameRecords { other.toBasket with lines := lines₂ } :=
    ⟨rfl, sameRecords_cataloguePrices hlines₂⟩
  have hheldKept := (hheld.sameRecords hsame).sameRecords (sameRecords_dropInvalidVoucher hdrop).1
  have hheldKept₂ :=
    (hheld₂.sameRecords hsame₂).sameRecords (sameRecords_dropInvalidVoucher hdrop₂).1
  have hlast : PromotionsLast kept.discounts := by
    rw [(sameRecords_dropInvalidVoucher hdrop).1.discounts]
    exact hregular.last
  obtain ⟨report₂, basket₂, ledger₂', hbasket₂, hsettled⟩ :=
    hkept.toRekeyed.exists_syncPromotions hlast hheldKept hheldKept₂ hbasket
  have hsynced : Rekeyed { kept with toBasket := basket } { kept₂ with toBasket := basket₂ } :=
    ⟨hsettled, hkept.shippingMethod, hkept.isShippingRequired⟩
  obtain ⟨other', hshow₂, hshown⟩ := hsynced.exists_showVoucher ledger₂' hshow
  refine ⟨report₂, other', ledger₂', ?_, hshown⟩
  rw [← hkept.deliveryPrice] at hbasket₂
  exact reconcile_eq_ok.2 ⟨lines₂, kept₂, basket₂, hlines₂, hdrop₂, hbasket₂, hshow₂⟩

end Checkout

/-! ## Orders -/

namespace Order

variable {order other order' charged : Order} {ledger ledger' ledger₂ : Ledger}
  {rest rest₂ : List DiscountRecord} {promotions : Promotions} {vouchers : Vouchers}
  {now : Instant} {u : Unit}

/-- The orders are the same, and their records say the same under keys of their own. -/
structure Rekeyed (order other : Order) : Prop
    extends Basket.Rekeyed order.toBasket other.toBasket where
  baseShippingPrice : other.baseShippingPrice = order.baseShippingPrice
  shippingPrice : other.shippingPrice = order.shippingPrice
  subtotal : other.subtotal = order.subtotal
  total : other.total = order.total

theorem toDiscount_noted_congr {records others : List DiscountRecord} {amounts : List Money}
    (h : others.map (·.toDiscount) = records.map (·.toDiscount)) :
    (noted others amounts).map (·.toDiscount) = (noted records amounts).map (·.toDiscount) := by
  have hnoted : ∀ records : List DiscountRecord, (noted records amounts).map (·.toDiscount) =
      List.zipWith (fun discount amount => { discount with amount : Discount })
        (records.map (·.toDiscount)) amounts := by
    intro records
    rw [noted, List.map_zipWith, List.zipWith_map_left]
  rw [hnoted, hnoted, h]

/-- Records that say the same take the same off the prices, and say the same afterwards. -/
theorem exists_priceRecords_of_map_eq {currency : Currency} {prices prices' : OrderPrices}
    {records others records' updates : List DiscountRecord}
    (hkinds : ∀ record ∈ records, record.kind ≠ .promotion)
    (h : others.map (·.toDiscount) = records.map (·.toDiscount))
    (hprices : priceRecords vouchers currency prices records = (.ok (prices', updates), records')) :
    ∃ updates₂ others', priceRecords vouchers currency prices others =
        (.ok (prices', updates₂), others') ∧
      others'.map (·.toDiscount) = records'.map (·.toDiscount) := by
  have hterms := (forall₂_alike_of_map_eq h).imp fun _ _ halike => halike.toSameTerms
  refine ⟨_, _, priceRecords_congr hkinds hterms hprices, ?_⟩
  rw [toDiscount_noted_congr h, ← (priceRecords_eq hkinds hprices).1]

/-- The records take the same off both orders. -/
theorem Rekeyed.exists_applyDiscounts {prices : OrderPrices} (h : order.Rekeyed other)
    (hkinds : ∀ record ∈ order.discounts, record.kind ≠ .promotion)
    (hheld₂ : other.toBasket.HeldIn ledger₂ rest₂)
    (happly : (applyDiscounts vouchers true).runOn (order, ledger) =
      (.ok prices, (charged, ledger'))) :
    ∃ charged₂ ledger₂', (applyDiscounts vouchers true).runOn (other, ledger₂) =
      (.ok prices, (charged₂, ledger₂')) ∧ charged.Rekeyed charged₂ := by
  obtain ⟨undiscounted, updates, records, hsubtotal, hrecords, -, hcharge⟩ :=
    applyDiscounts_eq_ok.1 happly
  obtain ⟨total, off, shares, lines, htotal, hoff, hspread, rfl⟩ := charge_eq_ok.1 hcharge
  obtain ⟨updates₂, records₂, hrecords₂, hsaid⟩ :=
    exists_priceRecords_of_map_eq hkinds h.discounts hrecords
  obtain ⟨lines₂, hspread₂, hsame⟩ :=
    redistribute_congr (h.lines.imp fun _ _ hline => hline.same) hspread
  obtain ⟨ledger₂', hwritten⟩ : ∃ ledger₂', if updates₂ = [] then ledger₂' = ledger₂
      else ledger₂.update updates₂ (.ofList [.amount]) = .ok ledger₂' := by
    by_cases hnone : updates₂ = []
    · exact ⟨ledger₂, by rw [if_pos hnone]⟩
    · obtain ⟨written, hwritten⟩ := exists_written hheld₂ hrecords₂
      exact ⟨written, by rw [if_neg hnone, hwritten]⟩
  have hcurrency : other.currency = order.currency := by rw [h.eq]
  rw [← hcurrency, ← h.baseShippingPrice] at hrecords₂
  refine ⟨_, ledger₂', applyDiscounts_eq_ok.2 ⟨undiscounted, updates₂, records₂,
    h.toRekeyed.subtotal.trans hsubtotal, hrecords₂, hwritten,
    charge_eq_ok.2 ⟨total, off, shares, lines₂, htotal, hoff, hspread₂, rfl⟩⟩,
    ⟨?_, ?_, hsaid⟩, h.baseShippingPrice, rfl, rfl, rfl⟩
  · rw [h.eq]
  · exact Line.forall_rekeyed_of_sameRecords h.lines (sameRecords_redistribute hspread)
      (sameRecords_redistribute hspread₂) hsame

theorem Rekeyed.validateVoucher (h : order.Rekeyed other) :
    other.validateVoucher vouchers = order.validateVoucher vouchers := by
  rw [Order.validateVoucher, Order.validateVoucher, h.toRekeyed.quantity, h.subtotal, h.eq]
  rfl

theorem Rekeyed.runOn_checkVoucher (h : order.Rekeyed other) (ledger₂ : Ledger)
    (hcheck : (checkVoucher vouchers).runOn (order, ledger) = (.ok u, (order, ledger))) :
    (checkVoucher vouchers).runOn (other, ledger₂) = (.ok u, (other, ledger₂)) := by
  simp only [checkVoucher, Step.runOn_get_bind, h.validateVoucher] at hcheck ⊢
  split at hcheck
  · rfl
  · rfl
  · simp at hcheck

/-- Both orders show the same discount. -/
theorem Rekeyed.shown (h : order.Rekeyed other) :
    (order.shown vouchers).Rekeyed (other.shown vouchers) := by
  have hfound := map_find?_toDiscount (·.kind == .voucher) h.discounts
  cases hfirst : order.discounts.find? (·.kind == .voucher) with
  | none =>
    rw [hfirst, Option.map_none, Option.map_eq_none_iff] at hfound
    simp only [Order.shown, hfirst, hfound]
    exact h
  | some record =>
    rw [hfirst, Option.map_some, Option.map_eq_some_iff] at hfound
    obtain ⟨record₂, hfirst₂, hsame⟩ := hfound
    simp only [Order.shown, hfirst, hfirst₂]
    refine ⟨⟨?_, h.lines, h.discounts⟩, h.baseShippingPrice, h.shippingPrice, h.subtotal, h.total⟩
    rw [h.eq, voucherSummary, voucherSummary, hsame]

/-- An order under other keys is reconciled to the same, whatever else is in its ledger. -/
theorem Rekeyed.exists_reconcile {report : SyncReport} (h : order.Rekeyed other)
    (hregular : order.toBasket.Regular) (hheld : order.toBasket.HeldIn ledger rest)
    (hheld₂ : other.toBasket.HeldIn ledger₂ rest₂)
    (hreconcile : (reconcile promotions vouchers now).runOn (order, ledger) =
      (.ok report, (order', ledger'))) :
    ∃ report₂ other' ledger₂', (reconcile promotions vouchers now).runOn (other, ledger₂) =
      (.ok report₂, (other', ledger₂')) ∧ order'.Rekeyed other' := by
  obtain ⟨lines, basket, ledger₁, prices, charged, hlines, hbasket, hdiscounts, hcheck, rfl⟩ :=
    reconcile_eq_ok.1 hreconcile
  obtain ⟨lines₂, hlines₂, hpriced⟩ := h.toRekeyed.exists_cataloguePrices hlines
  have hheldPriced : ({ order with lines } : Order).toBasket.HeldIn ledger rest :=
    hheld.sameRecords ⟨rfl, sameRecords_cataloguePrices hlines⟩
  have hheldPriced₂ : ({ other with lines := lines₂ } : Order).toBasket.HeldIn ledger₂ rest₂ :=
    hheld₂.sameRecords ⟨rfl, sameRecords_cataloguePrices hlines₂⟩
  obtain ⟨report₂, basket₂, ledger₁₂, hbasket₂, hsettled⟩ :=
    hpriced.exists_syncPromotions hregular.last hheldPriced hheldPriced₂ hbasket
  have hsynced : Rekeyed { order with toBasket := basket } { other with toBasket := basket₂ } :=
    ⟨hsettled, h.baseShippingPrice, h.shippingPrice, h.subtotal, h.total⟩
  have hregularPriced : ({ order with lines } : Order).toBasket.Regular :=
    hregular.of_eq (Basket.forall_tidy (sameRecords_cataloguePrices hlines) hregular.lines) rfl
  have hrules := Basket.rules_length_of_cataloguePrices hlines
  have hkinds := ((hheldPriced.settled hregularPriced hrules hbasket).regular hregularPriced
    hrules).kinds
  have hheldSynced₂ : ({ other with toBasket := basket₂ } : Order).toBasket.HeldIn ledger₁₂ rest₂ :=
    hheldPriced₂.syncPromotions hbasket₂
  obtain ⟨charged₂, ledger₂', hdiscounts₂, hcharged⟩ :=
    hsynced.exists_applyDiscounts hkinds hheldSynced₂ hdiscounts
  rw [← h.baseShippingPrice] at hbasket₂
  exact ⟨report₂, charged₂.shown vouchers, ledger₂',
    reconcile_eq_ok.2 ⟨lines₂, basket₂, ledger₁₂, prices, charged₂, hlines₂, hbasket₂, hdiscounts₂,
      hcharged.runOn_checkVoucher ledger₂' hcheck, rfl⟩, hcharged.shown⟩

end Order

end Retail
