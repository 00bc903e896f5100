import Retail.Proofs.Basket
import Retail.Proofs.Reconcile
import Retail.Proofs.Sync.Steady

/-!
# Promotions of a basket

What the records of a basket become when its promotions are brought in step is known from the basket
alone, but for the keys of new records, and what is sold stays the same.

## Main definitions

* `Basket.SameSale`: baskets that sell the same
* `Basket.Settles`: a basket before and after its order promotion was settled
* `Basket.Settled`: a basket before and after all its promotions were
* `Order.Charged`: an order before and after its discounts were taken off
* `Basket.Reconciled`: a basket before and after it was reconciled

## Main results

* `Basket.settled_syncPromotions`, `Basket.HeldIn.settled`: what the records of a basket become
* `Basket.Settles.runOn_syncPromotions`: promotions that are brought in step again
* `Basket.Settled.regular`, `Basket.Settled.sameSale`: what a basket keeps
* `Checkout.exists_settled`, `Order.exists_settled`: where a reconciliation settles promotions
-/

namespace Retail

/-! ## What is sold -/

section Sale

variable {basket other third : Basket}

theorem Line.SameButRecords.sameGoods {line other : Line} (h : line.SameButRecords other) :
    line.SameGoods other := by
  refine ⟨?_, ?_, ?_, ?_, ?_⟩ <;> rw [h]

theorem Line.Recharged.sameGoods {line line' : Line} (h : line.Recharged line') :
    line.SameGoods line' := by
  refine ⟨?_, ?_, ?_, ?_, ?_⟩ <;> rw [h]

/-- The baskets sell the same to the same customer: they differ at most in what promotions and
vouchers made of them. -/
structure Basket.SameSale (basket other : Basket) : Prop where
  lines : List.Forall₂ Line.SameGoods basket.lines other.lines
  channel : other.channel = basket.channel
  currency : other.currency = basket.currency
  email : other.email = basket.email
  customer : other.customer = basket.customer
  language : other.language = basket.language

theorem Basket.SameSale.refl (basket : Basket) : basket.SameSale basket :=
  ⟨List.forall₂_same.2 fun line _ => .refl line, rfl, rfl, rfl, rfl, rfl⟩

theorem Basket.SameSale.trans (h : basket.SameSale other) (h' : other.SameSale third) :
    basket.SameSale third :=
  ⟨forall₂_trans h.lines h'.lines fun _ _ _ => Line.SameGoods.trans, h'.channel.trans h.channel,
    h'.currency.trans h.currency, h'.email.trans h.email, h'.customer.trans h.customer,
    h'.language.trans h.language⟩

end Sale

/-! ## Promotions -/

section Promotions

variable {basket basket' : Basket} {ledger ledger' : Ledger} {rest : List DiscountRecord}
  {shipping : Money} {book : Promotions} {now : Instant} {winner : Option PromotionTerms}

/-- The basket was given the order promotion that won, or it was cleared. -/
def Basket.Settles (basket basket' : Basket) : Option PromotionTerms → Prop
  | none => basket' = basket.cleared
  | some terms => ∃ record, Kept terms basket basket' record

theorem Basket.settles_of_settleOrderPromotion (hnodup : (basket.discounts.map (·.key)).Nodup)
    (h : (settleOrderPromotion winner).runOn (basket, ledger) = (.ok (), (basket', ledger'))) :
    basket.Settles basket' winner := by
  cases winner with
  | none =>
    have hclear := (runOn_clearOrderPromotion basket ledger).symm.trans h
    simp only [Prod.mk.injEq, true_and] at hclear
    exact hclear.1.symm
  | some terms =>
    obtain ⟨record, hkept, -⟩ := exists_kept_of_keepOrderPromotion hnodup h
    exact ⟨record, hkept⟩

/-- The records of the lines were brought in step, and the order promotion that won for the lines
was settled. -/
structure Basket.Settled (shipping : Money) (book : Promotions) (now : Instant)
    (basket basket' : Basket) : Prop where
  lines : List.Forall₂ (Line.Synced book basket.language) basket.lines basket'.lines
  winner : ∃ prices winner,
    ({ basket with lines := basket'.lines } : Basket).winner shipping book now =
      .ok (prices, winner) ∧
    (({ basket with lines := basket'.lines } : Basket).withBasePrices prices).Settles basket'
      winner

/-- Only the records and the discount that is shown change with the order promotion. -/
theorem Basket.Settles.eq (h : basket.Settles basket' winner) :
    basket' = { basket with discounts := basket'.discounts, discount := basket'.discount } := by
  cases winner with
  | none =>
    obtain rfl : basket' = basket.cleared := h
    rfl
  | some terms =>
    obtain ⟨record, hkept⟩ := h
    rw [hkept.eq]

/-- Where the lines are in step and the order promotion was settled, only the order promotion is
settled again, whatever records of the order and whatever shown discount it is found with. -/
theorem Basket.Settles.runOn_syncPromotions {later : Basket} {prices : BasePrices}
    {after : Basket × Ledger} (hsettles : (basket.withBasePrices prices).Settles basket' winner)
    (hwinner : basket.winner shipping book now = .ok (prices, winner))
    (hsteady : ∀ line ∈ basket.lines, line.InStep book basket.language)
    (hsame : later = { basket' with discounts := later.discounts, discount := later.discount })
    (h : (settleOrderPromotion winner).runOn (later, ledger) = (.ok (), after)) :
    (Retail.syncPromotions shipping book now).runOn (later, ledger) =
      (.ok ⟨⟨0, 0, 0⟩, winner.map (·.rule)⟩, after) := by
  have heq : later = { basket.withBasePrices prices with
      discounts := later.discounts, discount := later.discount } := by
    rw [hsame, hsettles.eq]
  have hsteady' : ∀ line ∈ later.lines, line.InStep book later.language := by
    rw [heq]
    exact hsteady
  have hwinner' : later.winner shipping book now = .ok (prices, winner) := by
    rw [heq]
    exact hwinner
  have hpriced : later.withBasePrices prices = later := by
    rw [heq]
    rfl
  refine syncPromotions_eq_ok.2 ⟨(later, ledger), runOn_syncLines_of_inStep hsteady', ?_⟩
  exact syncOrderPromotion_eq_ok.2 ⟨prices, winner, hwinner', rfl, hpriced.symm ▸ h⟩

/-- Promotions change the records, the base prices and the discount that is shown. -/
theorem Basket.Settled.eq (h : basket.Settled shipping book now basket') :
    basket' = { basket with
      lines := basket'.lines
      baseSubtotal := basket'.baseSubtotal
      baseTotal := basket'.baseTotal
      discounts := basket'.discounts
      discount := basket'.discount } := by
  obtain ⟨-, _, _, -, hsettles⟩ := h
  rw [hsettles.eq]
  rfl

theorem Basket.Settled.regular (h : basket.Settled shipping book now basket')
    (hregular : basket.Regular) (hrules : ∀ line ∈ basket.lines, line.rules.length ≤ 1) :
    basket'.Regular := by
  obtain ⟨hsynced, prices, winner, -, hsettles⟩ := h
  have hpriced :
      (({ basket with lines := basket'.lines } : Basket).withBasePrices prices).Regular :=
    (hregular.synced hsynced hrules).of_eq (hregular.synced hsynced hrules).lines rfl
  cases winner with
  | none =>
    rw [show basket' = _ from hsettles]
    exact hpriced.cleared
  | some terms =>
    obtain ⟨record, hkept⟩ := hsettles
    exact hpriced.kept hkept

theorem Basket.Settled.sameSale (h : basket.Settled shipping book now basket') :
    basket.SameSale basket' := by
  refine ⟨h.lines.imp fun _ _ hsynced => hsynced.same.sameGoods, ?_, ?_, ?_, ?_, ?_⟩ <;> rw [h.eq]

/-- Only order promotions among the records of the order change. -/
theorem Basket.Settled.otherDiscounts_eq (h : basket.Settled shipping book now basket') :
    basket'.otherDiscounts = basket.otherDiscounts := by
  obtain ⟨-, prices, winner, -, hsettles⟩ := h
  cases winner with
  | none =>
    rw [show basket' = _ from hsettles, otherDiscounts_cleared]
    rfl
  | some terms =>
    obtain ⟨record, hkept⟩ := hsettles
    exact hkept.otherDiscounts

/-- A basket has an order promotion only without a voucher code, and shows what it gives. -/
theorem Basket.Settled.orderPromotions_cases (h : basket.Settled shipping book now basket') :
    basket'.orderPromotions = [] ∨ basket'.voucherCode = none ∧
      ∃ record, basket'.orderPromotions = [record] ∧ record.amount = basket'.discount.amount := by
  obtain ⟨-, prices, winner, hwinner, hsettles⟩ := h
  cases winner with
  | none =>
    rw [show basket' = _ from hsettles]
    exact .inl (orderPromotions_cleared _)
  | some terms =>
    obtain ⟨record, hkept⟩ := hsettles
    obtain ⟨-, hcode, -⟩ := winner_eq_some hwinner
    refine .inr ⟨by rw [hkept.eq]; exact hcode, record, hkept.orderPromotions, ?_⟩
    rw [hkept.eq]
    exact hkept.carries.amount

/-- A basket whose promotions are settled has the base prices of its lines. -/
theorem Basket.Settled.basePrices (h : basket.Settled shipping book now basket') :
    basket'.subtotal = .ok basket'.baseSubtotal ∧
      basket'.baseSubtotal.add shipping = .ok basket'.baseTotal := by
  have heq := h.eq
  obtain ⟨-, prices, winner, hwinner, hsettles⟩ := h
  have hprices : ({ basket with lines := basket'.lines } : Basket).basePricesWith shipping =
      .ok prices := by
    cases winner with
    | none => exact (winner_eq_none hwinner).1
    | some terms => exact (winner_eq_some hwinner).1
  obtain ⟨subtotal, hsubtotal, total, htotal, rfl⟩ := by
    simpa only [basePricesWith, bind_eq_ok, pure_eq_ok] using hprices
  rw [hsettles.eq]
  exact ⟨hsubtotal, htotal⟩

/-- The lines of a regular basket in step with their rules, once they have their prices. -/
theorem Basket.HeldIn.synced {changes : LineChanges} (hheld : basket.HeldIn ledger rest)
    (hregular : basket.Regular) (hrules : ∀ line ∈ basket.lines, line.rules.length ≤ 1)
    (h : (Retail.syncLines book).runOn (basket, ledger) = (.ok changes, (basket', ledger'))) :
    basket' = { basket with lines := basket'.lines } ∧
      List.Forall₂ (Line.Synced book basket.language) basket.lines basket'.lines := by
  exact synced_syncLines hheld.nodup_lines
    (fun line hline => (hregular.lines line hline).distinct (hrules line hline)) h

/-- What the records of a basket become, where their keys are distinct and no line has two of a
rule. -/
theorem Basket.settled_syncPromotions {report : SyncReport}
    (hdiscounts : (basket.discounts.map (·.key)).Nodup)
    (hlines : ((basket.lines.flatMap (·.discounts)).map (·.key)).Nodup)
    (hdistinct : ∀ line ∈ basket.lines, line.Distinct)
    (h : (Retail.syncPromotions shipping book now).runOn (basket, ledger) =
      (.ok report, (basket', ledger'))) :
    basket.Settled shipping book now basket' := by
  obtain ⟨⟨middle, ledger₁⟩, hsync, horder⟩ := syncPromotions_eq_ok.1 h
  obtain ⟨hmiddle, hsynced⟩ := synced_syncLines hlines hdistinct hsync
  obtain ⟨prices, winner, hwinner, -, hsettle⟩ := syncOrderPromotion_eq_ok.1 horder
  have hnodup : ((middle.withBasePrices prices).discounts.map (·.key)).Nodup := by
    rw [hmiddle]
    exact hdiscounts
  have hsettles := settles_of_settleOrderPromotion hnodup hsettle
  have hlines' : basket'.lines = middle.lines := by rw [hsettles.eq]; rfl
  rw [← hlines'] at hsynced hmiddle
  rw [hmiddle] at hwinner hsettles
  exact ⟨hsynced, prices, winner, hwinner, hsettles⟩

/-- What the records of a regular basket become, once its lines have their prices. -/
theorem Basket.HeldIn.settled {report : SyncReport} (hheld : basket.HeldIn ledger rest)
    (hregular : basket.Regular) (hrules : ∀ line ∈ basket.lines, line.rules.length ≤ 1)
    (h : (Retail.syncPromotions shipping book now).runOn (basket, ledger) =
      (.ok report, (basket', ledger'))) :
    basket.Settled shipping book now basket' :=
  settled_syncPromotions hheld.nodup_discounts hheld.nodup_lines
    (fun line hline => (hregular.lines line hline).distinct (hrules line hline)) h

end Promotions

/-! ## Reconciled baskets -/

namespace Basket

variable {basket basket' : Basket} {shipping : Money} {book : Promotions} {now : Instant}

/-- A basket before and after it was reconciled. A voucher may have been dropped, the lines were
given their catalogue prices and the promotions were settled. Since then at most what is charged for
the lines, the amounts of the records of the order and the discount that is shown have changed. -/
structure Reconciled (shipping : Money) (book : Promotions) (now : Instant)
    (basket basket' : Basket) : Prop where
  settled : ∃ lines settled,
    (cataloguePrices book basket.channel now).runOn basket.lines = (.ok (), lines) ∧
    ({ basket with
      lines, voucher := basket'.voucher, voucherCode := basket'.voucherCode } : Basket).Settled
        shipping book now settled ∧
    List.Forall₂ Line.Recharged settled.lines basket'.lines ∧
    List.Forall₂ DiscountRecord.SameButAmount settled.discounts basket'.discounts ∧
    basket' = { settled with
      lines := basket'.lines, discounts := basket'.discounts, discount := basket'.discount }

theorem rules_length_of_cataloguePrices {channel : ChannelKey} {lines lines' : List Line} {u : Unit}
    (h : (cataloguePrices book channel now).runOn lines = (.ok u, lines')) :
    ∀ line ∈ lines', line.rules.length ≤ 1 := by
  intro line hline
  obtain ⟨_, -, hpriced⟩ := exists_left_of_forall₂ (cataloguePrices_eq_ok.1 h) hline
  exact Line.rules_length_of_setCataloguePrice hpriced

theorem Reconciled.regular (h : basket.Reconciled shipping book now basket')
    (hregular : basket.Regular) : basket'.Regular := by
  obtain ⟨lines, settled, hlines, hsettled, hcharged, hamounts, -⟩ := h
  have hpriced : Regular { basket with
      lines, voucher := basket'.voucher, voucherCode := basket'.voucherCode } :=
    hregular.of_eq (forall_tidy (sameRecords_cataloguePrices hlines) hregular.lines) rfl
  exact (hsettled.regular hpriced (rules_length_of_cataloguePrices hlines)).recharged hcharged
    hamounts

theorem Reconciled.sameSale (h : basket.Reconciled shipping book now basket') :
    basket.SameSale basket' := by
  obtain ⟨lines, settled, hlines, hsettled, hcharged, -, heq⟩ := h
  obtain ⟨hsame, hchannel, hcurrency, hemail, hcustomer, hlanguage⟩ := hsettled.sameSale
  have hgoods := forall₂_trans (forall₂_trans (sameGoods_cataloguePrices hlines) hsame
    fun _ _ _ => Line.SameGoods.trans) (hcharged.imp fun _ _ => Line.Recharged.sameGoods)
    fun _ _ _ => Line.SameGoods.trans
  rw [heq]
  exact ⟨hgoods, hchannel, hcurrency, hemail, hcustomer, hlanguage⟩

end Basket

/-- A checkout that is reconciled is settled between its voucher's being dropped and shown. -/
theorem Checkout.exists_settled {checkout checkout' : Checkout} {ledger ledger' : Ledger}
    {rest : List DiscountRecord} {channel : Channel} {promotions : Promotions} {vouchers : Vouchers}
    {now : Instant} {report : SyncReport} (hheld : checkout.toBasket.HeldIn ledger rest)
    (hregular : checkout.toBasket.Regular)
    (h : (reconcile channel promotions vouchers now).runOn (checkout, ledger) =
      (.ok report, (checkout', ledger'))) :
    ∃ lines kept settled,
      (cataloguePrices promotions checkout.channel now).runOn checkout.lines = (.ok (), lines) ∧
      (dropInvalidVoucher vouchers now).runOn ({ checkout with lines }, ledger) =
        (.ok (), (kept, ledger)) ∧
      kept.toBasket.Settled (checkout.deliveryPrice channel) promotions now settled ∧
      settled.Regular ∧ settled.Placed ∧
      (showVoucher channel vouchers).runOn ({ kept with toBasket := settled }, ledger') =
        (.ok (), (checkout', ledger')) := by
  obtain ⟨lines, kept, settled, hlines, hdrop, hsync, hshow⟩ := reconcile_eq_ok.1 h
  obtain ⟨hkept, -⟩ := eq_of_dropInvalidVoucher_eq_ok hdrop
  have hheld' := (hheld.sameRecords ⟨rfl, sameRecords_cataloguePrices hlines⟩ :
    ({ checkout with lines } : Checkout).toBasket.HeldIn ledger rest).sameRecords
      (sameRecords_dropInvalidVoucher hdrop).1
  have hregular' : kept.toBasket.Regular := by
    rw [hkept]
    exact hregular.of_eq (Basket.forall_tidy (sameRecords_cataloguePrices hlines) hregular.lines)
      rfl
  have hrules : ∀ line ∈ kept.lines, line.rules.length ≤ 1 := by
    rw [hkept]
    exact Basket.rules_length_of_cataloguePrices hlines
  have hdelivery : kept.deliveryPrice channel = checkout.deliveryPrice channel := by
    rw [hkept]
    rfl
  have hsettled := hheld'.settled hregular' hrules hsync
  exact ⟨lines, kept, settled, hlines, hdrop, hdelivery ▸ hsettled,
    hsettled.regular hregular' hrules, (hheld'.syncPromotions hsync).placed, hshow⟩

theorem Checkout.reconciled {checkout checkout' : Checkout} {ledger ledger' : Ledger}
    {rest : List DiscountRecord} {channel : Channel} {promotions : Promotions} {vouchers : Vouchers}
    {now : Instant} {report : SyncReport} (hheld : checkout.toBasket.HeldIn ledger rest)
    (hregular : checkout.toBasket.Regular)
    (h : (reconcile channel promotions vouchers now).runOn (checkout, ledger) =
      (.ok report, (checkout', ledger'))) :
    checkout.toBasket.Reconciled (checkout.deliveryPrice channel) promotions now
      checkout'.toBasket := by
  obtain ⟨lines, kept, basket, hlines, hdrop, hsettled, -, -, hshow⟩ :=
    exists_settled hheld hregular h
  obtain ⟨hkept, -⟩ := eq_of_dropInvalidVoucher_eq_ok hdrop
  obtain ⟨hshown, -⟩ := eq_of_showVoucher_eq_ok hshow
  have hbasket : kept.toBasket = { checkout.toBasket with
      lines, voucher := checkout'.voucher, voucherCode := checkout'.voucherCode } := by
    have hvouchers : basket.voucher = kept.voucher ∧ basket.voucherCode = kept.voucherCode := by
      rw [hsettled.eq]
      exact ⟨rfl, rfl⟩
    rw [hshown]
    show _ = { checkout.toBasket with
      lines, voucher := basket.voucher, voucherCode := basket.voucherCode }
    rw [hvouchers.1, hvouchers.2, hkept]
  rw [hbasket] at hsettled
  refine ⟨lines, basket, hlines, hsettled, ?_, ?_, ?_⟩ <;> rw [hshown]
  · exact List.forall₂_same.2 fun _ _ => rfl
  · exact List.forall₂_same.2 fun _ _ => rfl

/-- An order before and after its discounts were taken off: what is charged, and the amounts that
its records note, have changed. -/
structure Order.Charged (order charged : Order) : Prop where
  eq : charged = { order with
    lines := charged.lines
    discounts := charged.discounts
    shippingPrice := charged.shippingPrice
    subtotal := charged.subtotal
    total := charged.total }
  lines : List.Forall₂ Line.Recharged order.lines charged.lines
  discounts : List.Forall₂ DiscountRecord.SameButAmount order.discounts charged.discounts

theorem Order.Charged.orderPromotions {order charged : Order} (h : order.Charged charged) :
    List.Forall₂ DiscountRecord.SameButAmount order.orderPromotions charged.orderPromotions :=
  forall₂_filter_kind (· == .orderPromotion) h.discounts

theorem Order.charged_applyDiscounts {order charged : Order} {ledger ledger' : Ledger}
    {vouchers : Vouchers} {prices : OrderPrices}
    (h : (applyDiscounts vouchers true).runOn (order, ledger) = (.ok prices, (charged, ledger'))) :
    order.Charged charged := by
  obtain ⟨_, _, _, -, hrecords, -, hcharge⟩ := applyDiscounts_eq_ok.1 h
  obtain ⟨_, _, _, _, -, -, hspread, rfl⟩ := charge_eq_ok.1 hcharge
  exact ⟨rfl, recharged_redistribute hspread,
    (priceRecords_repriced hrecords).imp fun _ _ hrepriced => hrepriced.eq⟩

/-- An order that is reconciled is settled before its discounts are taken off. -/
theorem Order.exists_settled {order order' : Order} {ledger ledger' : Ledger}
    {rest : List DiscountRecord} {promotions : Promotions} {vouchers : Vouchers} {now : Instant}
    {report : SyncReport} (hheld : order.toBasket.HeldIn ledger rest)
    (hregular : order.toBasket.Regular)
    (h : (reconcile promotions vouchers now).runOn (order, ledger) =
      (.ok report, (order', ledger'))) :
    ∃ lines settled ledger₁ prices charged,
      (cataloguePrices promotions order.channel now).runOn order.lines = (.ok (), lines) ∧
      ({ order with lines } : Order).toBasket.Settled order.baseShippingPrice promotions now
        settled ∧
      settled.Regular ∧ settled.Placed ∧
      (applyDiscounts vouchers true).runOn ({ order with toBasket := settled }, ledger₁) =
        (.ok prices, (charged, ledger')) ∧
      (checkVoucher vouchers).runOn (charged, ledger') = (.ok (), (charged, ledger')) ∧
      order' = charged.shown vouchers := by
  obtain ⟨lines, settled, ledger₁, prices, charged, hlines, hsync, hdiscounts, hcheck, rfl⟩ :=
    reconcile_eq_ok.1 h
  have hheld' : ({ order with lines } : Order).toBasket.HeldIn ledger rest :=
    hheld.sameRecords ⟨rfl, sameRecords_cataloguePrices hlines⟩
  have hregular' : ({ order with lines } : Order).toBasket.Regular :=
    hregular.of_eq (Basket.forall_tidy (sameRecords_cataloguePrices hlines) hregular.lines) rfl
  have hrules := Basket.rules_length_of_cataloguePrices hlines
  have hsettled := hheld'.settled hregular' hrules hsync
  exact ⟨lines, settled, ledger₁, prices, charged, hlines, hsettled,
    hsettled.regular hregular' hrules, (hheld'.syncPromotions hsync).placed, hdiscounts, hcheck,
    rfl⟩

theorem Order.reconciled {order order' : Order} {ledger ledger' : Ledger}
    {rest : List DiscountRecord} {promotions : Promotions} {vouchers : Vouchers} {now : Instant}
    {report : SyncReport} (hheld : order.toBasket.HeldIn ledger rest)
    (hregular : order.toBasket.Regular)
    (h : (reconcile promotions vouchers now).runOn (order, ledger) =
      (.ok report, (order', ledger'))) :
    order.toBasket.Reconciled order.baseShippingPrice promotions now order'.toBasket := by
  obtain ⟨lines, basket, ledger₁, prices, charged, hlines, hsettled, -, -, hdiscounts, -, rfl⟩ :=
    exists_settled hheld hregular h
  have hcharged := charged_applyDiscounts hdiscounts
  rw [shown_eq, hcharged.eq]
  refine ⟨lines, basket, hlines, ?_, hcharged.lines, hcharged.discounts, rfl⟩
  have hvouchers : basket.voucher = order.voucher ∧ basket.voucherCode = order.voucherCode := by
    rw [hsettled.eq]
    exact ⟨rfl, rfl⟩
  show ({ order.toBasket with
    lines, voucher := basket.voucher, voucherCode := basket.voucherCode } : Basket).Settled _ _ _ _
  rw [hvouchers.1, hvouchers.2]
  exact hsettled

end Retail
