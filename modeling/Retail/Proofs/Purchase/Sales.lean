import Retail.Proofs.Run

/-!
# One purchase as a checkout and as an order

A checkout finds what its voucher takes off from the book of vouchers, an order from the record with
which it was placed. Where both are of the same wares with the same voucher, the prices come out the
same for vouchers of the whole order and of shipping. A voucher of single products takes nothing off
an order.

## Main definitions

* `Voucher.base?`, `Voucher.totalAfter`: the base price that a voucher is taken off, and what is
  left
* `Voucher.Recorded`, `Order.Redeems`: the record of a voucher, and an order that has it
* `Checkout.Keeps`: a checkout that may have lost its voucher and nothing else
* `Checkout.SamePurchase`: a checkout and an order of one purchase
* `Checkout.ComesTo`: what they come to

## Main results

* `Checkout.exists_of_reconcile`: what a checkout shows of its voucher
* `Order.Redeems.exists_of_reconcile`: what an order is charged with its voucher
* `Checkout.SamePurchase.comesTo_of_reconcile`: what both come to
* `Scenario.Run.comesTo`: the same, whenever a scenario is reconciled
-/

namespace Retail

/-! ## Wares -/

section Wares

variable {book : Promotions} {channel : ChannelKey} {now : Instant} {language : Option String}

namespace Line

variable {line other third line' other' : Line} {u u' : Unit}

/-- The same wares cost the same after catalogue promotions. -/
theorem SameWares.baseTotal_of_setCataloguePrice (hsame : line.SameWares other)
    (h : (setCataloguePrice book channel now).runOn line = (.ok u, line'))
    (h' : (setCataloguePrice book channel now).runOn other = (.ok u', other')) :
    other'.baseTotal = line'.baseTotal := by
  have hother := hsame.runOn_setCataloguePrice h
  obtain rfl := (Prod.mk.inj (h'.symm.trans hother)).2
  obtain ⟨price, _, _, -, -, -, rfl⟩ := setCataloguePrice_eq_ok.1 h
  show price.floorAtZero.times other.quantity = price.floorAtZero.times line.quantity
  rw [hsame.quantity]

end Line

/-- Lines of the same wares have the same sum once their promotions are in step. -/
theorem baseSubtotal_of_sameWares {lines others priced priced' synced synced' : List Line}
    {language' : Option String} {currency : Currency} {u u' : Unit}
    (hsame : List.Forall₂ Line.SameWares lines others)
    (hpriced : (cataloguePrices book channel now).runOn lines = (.ok u, priced))
    (hpriced' : (cataloguePrices book channel now).runOn others = (.ok u', priced'))
    (hsynced : List.Forall₂ (Line.Synced book language) priced synced)
    (hsynced' : List.Forall₂ (Line.Synced book language') priced' synced') :
    baseSubtotal synced' currency = baseSubtotal synced currency := by
  have htotals : List.Forall₂ (fun line other : Line => other.baseTotal = line.baseTotal) priced
      priced' :=
    forall₂_square hsame (cataloguePrices_eq_ok.1 hpriced) (cataloguePrices_eq_ok.1 hpriced')
      fun _ _ _ _ _ _ _ _ hsame h h' => hsame.baseTotal_of_setCataloguePrice h h'
  apply baseSubtotal_congr
  refine forall₂_square htotals hsynced hsynced' ?_
  intro line _ other _ line' _ other' _ htotal h h'
  rw [h'.same.baseTotal, h.same.baseTotal, htotal]

end Wares

/-! ## Vouchers -/

namespace Voucher

variable {voucher : Voucher} {price off subtotal shipping left : Money} {channel : ChannelKey}

/-- The base price that the voucher is taken off: the subtotal or the price of shipping. A voucher
of single products is taken off neither. -/
def base? (voucher : Voucher) (subtotal shipping : Money) : Option Money :=
  match voucher.voucherType with
  | .entireOrder => some subtotal
  | .shipping => some shipping
  | .specificProduct => none

theorem discountAmount_eq_ok :
    voucher.discountAmount price channel = .ok off ↔
      ∃ value, voucher.discountIn channel = .ok value ∧ value.amountOff price = .ok off := by
  simp only [discountAmount, bind_eq_ok, mapError_eq_ok]

/-- What subtotal and shipping come to, less what the voucher takes off its base price. -/
def totalAfter (voucher : Voucher) (channel : ChannelKey) (subtotal shipping : Money) :
    Except VoucherError Money := do
  let total ← (subtotal.add shipping).mapError .pricing
  match voucher.base? subtotal shipping with
  | some price => (total.sub (← voucher.discountAmount price channel)).mapError .pricing
  | none => return total

theorem totalAfter_of_base?_eq_some (h : voucher.base? subtotal shipping = some price) :
    voucher.totalAfter channel subtotal shipping = .ok left ↔ ∃ total off,
      subtotal.add shipping = .ok total ∧ voucher.discountAmount price channel = .ok off ∧
      total.sub off = .ok left := by
  simp only [totalAfter, h, bind_eq_ok, mapError_eq_ok, exists_and_left]

theorem totalAfter_of_base?_eq_none (h : voucher.base? subtotal shipping = none) :
    voucher.totalAfter channel subtotal shipping = .ok left ↔
      subtotal.add shipping = .ok left := by
  simp only [totalAfter, h, bind_eq_ok, mapError_eq_ok, pure_eq_ok, exists_eq_right]

/-- The record is of the voucher and carries what it lists in the channel. -/
structure Recorded (voucher : Voucher) (key : VoucherKey) (channel : ChannelKey)
    (record : DiscountRecord) : Prop where
  kind : record.kind = .voucher
  key_eq : record.voucher = some key
  terms : voucher.discountIn channel = .ok ⟨record.value, record.valueType⟩

/-- What the record of a voucher is taken off is what the voucher is taken off. -/
theorem Recorded.totalAfter {vouchers : Vouchers} {key : VoucherKey} {record : DiscountRecord}
    {prices later : OrderPrices} (h : voucher.Recorded key channel record)
    (hentered : vouchers.vouchers.get? key = some voucher) {total : Money}
    (htotal : prices.subtotal.add prices.shipping = .ok total)
    (hafter : prices.after record.toDiscount vouchers prices.subtotal.currency = .ok later)
    (hleft : later.subtotal.add later.shipping = .ok left) :
    voucher.totalAfter channel prices.subtotal prices.shipping = .ok left := by
  have htype : record.voucher.bind vouchers.typeOf? = some voucher.voucherType := by
    rw [h.key_eq, Option.bind_some, Vouchers.typeOf?, hentered]
    rfl
  obtain ⟨hcurrency, rfl⟩ := Money.add_eq_ok.1 htotal
  obtain ⟨hcurrency', rfl⟩ := Money.add_eq_ok.1 hleft
  have hoff : ∀ {price rest : Money}, price.currency = prices.subtotal.currency →
      discountedPrice record.value record.valueType prices.subtotal.currency price = .ok rest →
      voucher.discountAmount price channel = .ok ⟨price.minor - rest.minor, price.currency⟩ := by
    intro price rest hprice hrest
    rw [← hprice] at hrest
    exact discountAmount_eq_ok.2 ⟨_, h.terms, DiscountValue.amountOff_eq_ok.2 ⟨rest, hrest, rfl⟩⟩
  rw [OrderPrices.after, h.kind] at hafter
  simp only [htype] at hafter
  cases hbase : voucher.voucherType with
  | entireOrder =>
    rw [hbase, OrderPrices.onSubtotal_eq_ok] at hafter
    obtain ⟨hrest, hkept⟩ := hafter
    have hprice : voucher.base? prices.subtotal prices.shipping = some prices.subtotal := by
      rw [base?, hbase]
    refine (totalAfter_of_base?_eq_some hprice).2 ⟨_, _, htotal, hoff rfl hrest, ?_⟩
    rw [Money.sub_eq_ok, Money.mk.injEq, hcurrency', hkept]
    dsimp only
    exact ⟨rfl, by omega, hcurrency.symm⟩
  | shipping =>
    rw [hbase, OrderPrices.onShipping_eq_ok] at hafter
    obtain ⟨hrest, hkept⟩ := hafter
    have hprice : voucher.base? prices.subtotal prices.shipping = some prices.shipping := by
      rw [base?, hbase]
    refine (totalAfter_of_base?_eq_some hprice).2 ⟨_, _, htotal, hoff hcurrency.symm hrest, ?_⟩
    rw [Money.sub_eq_ok, Money.mk.injEq, hkept]
    dsimp only
    exact ⟨hcurrency, by omega, rfl⟩
  | specificProduct =>
    rw [hbase] at hafter
    have hnone : voucher.base? prices.subtotal prices.shipping = none := by rw [base?, hbase]
    obtain rfl := Except.ok.inj hafter
    exact (totalAfter_of_base?_eq_none hnone).2 htotal

end Voucher

/-! ## Checkouts -/

namespace Checkout

variable {checkout other third checkout' : Checkout} {ledger ledger' : Ledger}
  {rest : List DiscountRecord} {channel : Channel} {promotions : Promotions} {vouchers : Vouchers}
  {now : Instant} {report : SyncReport} {voucher : Voucher} {amount price : Money}

/-- A voucher of the whole order or of shipping takes its amount off the base price that it is
for. -/
theorem discountAmount_of_voucherAmount
    (hrequired : voucher.voucherType = .shipping → checkout.isShippingRequired)
    (h : checkout.voucherAmount channel voucher = .ok amount)
    (hbase : voucher.base? checkout.baseSubtotal (checkout.deliveryPrice channel) = some price) :
    voucher.discountAmount price checkout.channel = .ok amount := by
  unfold Voucher.base? at hbase
  unfold voucherAmount at h
  cases htype : voucher.voucherType with
  | entireOrder =>
    simp only [htype, Option.some.injEq] at hbase h
    exact hbase ▸ h
  | shipping =>
    simp only [htype, Option.some.injEq] at hbase h
    subst hbase
    have hships : (checkout.isShippingRequired && voucher.voucherType == .shipping) = true := by
      simp [hrequired htype, htype]
    simp only [deliveryPriceAfter, if_pos hships, bind_eq_ok, mapError_eq_ok, Money.sub_eq_ok] at h
    obtain ⟨_, ⟨off, hoff, hcurrency, rfl⟩, -, rfl⟩ := h
    rw [hoff, sub_sub_cancel, hcurrency]
  | specificProduct => simp [htype] at hbase

/-- The checkout sells the same as before, and either it has the same voucher or none. -/
structure Keeps (checkout other : Checkout) : Prop
    extends Basket.SameSale checkout.toBasket other.toBasket where
  shippingMethod : other.shippingMethod = checkout.shippingMethod
  isShippingRequired : other.isShippingRequired = checkout.isShippingRequired
  voucher : other.voucherCode = none ∨
    other.voucher = checkout.voucher ∧ other.voucherCode = checkout.voucherCode

theorem Keeps.refl (checkout : Checkout) : checkout.Keeps checkout :=
  ⟨.refl checkout.toBasket, rfl, rfl, .inr ⟨rfl, rfl⟩⟩

theorem Keeps.trans (h : checkout.Keeps other) (h' : other.Keeps third) : checkout.Keeps third := by
  refine ⟨h.toSameSale.trans h'.toSameSale, h'.shippingMethod.trans h.shippingMethod,
    h'.isShippingRequired.trans h.isShippingRequired, ?_⟩
  rcases h'.voucher with hnone | ⟨hvoucher', hcode'⟩
  · exact .inl hnone
  · rcases h.voucher with hnone | ⟨hvoucher, hcode⟩
    · exact .inl (hcode'.trans hnone)
    · exact .inr ⟨hvoucher'.trans hvoucher, hcode'.trans hcode⟩

theorem Keeps.deliveryPrice (h : checkout.Keeps other) :
    other.deliveryPrice channel = checkout.deliveryPrice channel := by
  simp only [Checkout.deliveryPrice, h.shippingMethod, h.isShippingRequired, h.currency]

/-- Reconciling takes the voucher off a checkout or leaves it there. -/
theorem keeps_reconcile (hheld : checkout.toBasket.HeldIn ledger rest)
    (hregular : checkout.toBasket.Regular)
    (h : (reconcile channel promotions vouchers now).runOn (checkout, ledger) =
      (.ok report, (checkout', ledger'))) : checkout.Keeps checkout' := by
  have hsale := (reconciled hheld hregular h).sameSale
  obtain ⟨lines, kept, settled, -, hdrop, hsettled, -, -, hshow⟩ := exists_settled hheld hregular h
  obtain ⟨hshown, -⟩ := eq_of_showVoucher_eq_ok hshow
  have hvouchers : settled.voucher = kept.voucher ∧ settled.voucherCode = kept.voucherCode := by
    rw [hsettled.eq]
    exact ⟨rfl, rfl⟩
  rw [hshown] at hsale ⊢
  obtain ⟨rfl | rfl, -⟩ := eq_or_eq_of_dropInvalidVoucher_eq_ok hdrop
  · exact ⟨hsale, rfl, rfl, .inr hvouchers⟩
  · exact ⟨hsale, rfl, rfl, .inl hvouchers.2⟩

/-- A checkout that keeps its voucher shows what it takes off, and has the base prices of its
lines. -/
theorem exists_of_reconcile (hrequired : checkout.isShippingRequired)
    (hheld : checkout.toBasket.HeldIn ledger rest) (hregular : checkout.toBasket.Regular)
    (h : (reconcile channel promotions vouchers now).runOn (checkout, ledger) =
      (.ok report, (checkout', ledger')))
    {key : VoucherKey} (hkey : checkout'.voucher = some key) :
    ∃ voucher lines synced, vouchers.vouchers.get? key = some voucher ∧
      (∀ price,
        voucher.base? checkout'.baseSubtotal (checkout.deliveryPrice channel) = some price →
        voucher.discountAmount price checkout.channel = .ok checkout'.discount.amount) ∧
      (cataloguePrices promotions checkout.channel now).runOn checkout.lines = (.ok (), lines) ∧
      List.Forall₂ (Line.Synced promotions checkout.language) lines synced ∧
      baseSubtotal synced checkout.currency = .ok checkout'.baseSubtotal ∧
      checkout'.baseSubtotal.add (checkout.deliveryPrice channel) = .ok checkout'.baseTotal := by
  obtain ⟨lines, kept, settled, hlines, hdrop, hsettled, -, -, hshow⟩ :=
    exists_settled hheld hregular h
  obtain ⟨hkept, -⟩ := eq_of_dropInvalidVoucher_eq_ok hdrop
  obtain ⟨hsubtotal, htotal⟩ := hsettled.basePrices
  obtain ⟨-, ⟨hnone, rfl⟩ | ⟨found, voucher, amount, hfound, hvoucher, hamount, rfl⟩⟩ :=
    showVoucher_eq_ok.1 hshow
  · exact absurd (hkey.symm.trans hnone) nofun
  · obtain rfl : key = found := Option.some.inj (hkey.symm.trans hfound)
    have hdelivery : ({ kept with toBasket := settled } : Checkout).deliveryPrice channel =
        checkout.deliveryPrice channel := by
      rw [hsettled.eq, hkept]
      rfl
    have hchannel : settled.channel = checkout.channel := by rw [hsettled.eq, hkept]
    have hcurrency : settled.currency = checkout.currency := by rw [hsettled.eq, hkept]
    have hships : ({ kept with toBasket := settled } : Checkout).isShippingRequired := by
      rw [hkept]
      exact hrequired
    have hsynced := hsettled.lines
    rw [hkept] at hsynced
    refine ⟨voucher, lines, settled.lines, hvoucher, fun price hprice => ?_, hlines, hsynced, ?_,
      htotal⟩
    · rw [← hdelivery] at hprice
      rw [← hchannel]
      exact discountAmount_of_voucherAmount (fun _ => hships) hamount hprice
    · rw [← hcurrency]
      exact hsubtotal

end Checkout

/-! ## Orders -/

namespace Order

variable {order order' : Order} {ledger ledger' : Ledger} {rest : List DiscountRecord}
  {promotions : Promotions} {vouchers : Vouchers} {now : Instant} {report : SyncReport}
  {key : VoucherKey} {voucher : Voucher}

/-- Besides order promotions, the order has the record of a voucher and no other. It carries what
the voucher lists in the channel of the order. -/
structure Redeems (vouchers : Vouchers) (key : VoucherKey) (voucher : Voucher) (order : Order) :
    Prop where
  voucherCode : order.voucherCode.isSome
  entered : vouchers.vouchers.get? key = some voucher
  record : ∃ record, order.otherDiscounts = [record] ∧ voucher.Recorded key order.channel record

theorem Redeems.sameDeal (h : order.Redeems vouchers key voucher) (hdeal : order.SameDeal order') :
    order'.Redeems vouchers key voucher := by
  obtain ⟨record, hothers, hrecorded⟩ := h.record
  have hrecords := hdeal.others
  rw [hothers, List.forall₂_cons_left_iff] at hrecords
  obtain ⟨record', rest', hsame, hnil, hothers'⟩ := hrecords
  obtain rfl : rest' = [] := by simpa using hnil
  rw [hsame] at hothers'
  refine ⟨hdeal.voucherCode ▸ h.voucherCode, h.entered, _, hothers', hrecorded.kind,
    hrecorded.key_eq, ?_⟩
  rw [hdeal.channel]
  exact hrecorded.terms

/-- With a voucher code there is no order promotion. -/
theorem Redeems.exists_discounts_eq {lines : List Line} {shipping : Money} {settled : Basket}
    (h : order.Redeems vouchers key voucher)
    (hsettled : ({ order with lines } : Order).toBasket.Settled shipping promotions now settled)
    (hregular : settled.Regular) :
    ∃ record, settled.discounts = [record] ∧ voucher.Recorded key order.channel record := by
  obtain ⟨record, hrecord, hrecorded⟩ := h.record
  refine ⟨record, ?_, hrecorded⟩
  have hnone : settled.orderPromotions = [] := by
    have hcode : settled.voucherCode = order.voucherCode := by rw [hsettled.eq]
    rcases hsettled.orderPromotions_cases with hnone | ⟨hnone, -⟩
    · exact hnone
    · have hsome := h.voucherCode
      rw [← hcode, hnone] at hsome
      contradiction
  rw [hregular.discounts_eq, hsettled.otherDiscounts_eq, hnone, List.append_nil]
  exact hrecord

/-- An order comes to what its voucher leaves of its base prices. -/
theorem Redeems.exists_of_reconcile (h : order.Redeems vouchers key voucher)
    (hheld : order.toBasket.HeldIn ledger rest) (hregular : order.toBasket.Regular)
    (hreconcile : (reconcile promotions vouchers now).runOn (order, ledger) =
      (.ok report, (order', ledger'))) :
    ∃ subtotal lines synced,
      voucher.totalAfter order.channel subtotal order.baseShippingPrice = .ok order'.total ∧
      (cataloguePrices promotions order.channel now).runOn order.lines = (.ok (), lines) ∧
      List.Forall₂ (Line.Synced promotions order.language) lines synced ∧
      baseSubtotal synced order.currency = .ok subtotal := by
  obtain ⟨lines, settled, ledger₁, prices, charged, hlines, hsettled, hregular', -, hdiscounts, -,
    rfl⟩ := exists_settled hheld hregular hreconcile
  obtain ⟨hsubtotal, htotal⟩ := hsettled.basePrices
  have hcurrency : settled.currency = order.currency := by rw [hsettled.eq]
  refine ⟨settled.baseSubtotal, lines, settled.lines, ?_, hlines, hsettled.lines,
    hcurrency ▸ hsubtotal⟩
  obtain ⟨record, hlist, hrecorded⟩ := h.exists_discounts_eq hsettled hregular'
  have hne : record.kind ≠ .promotion := by simp [hrecorded.kind]
  obtain ⟨undiscounted, amount, hundiscounted, hafter, -, -, hcharged⟩ :=
    exists_after_of_applyDiscounts_eq_ok hlist hne hdiscounts
  obtain rfl : settled.baseSubtotal = undiscounted :=
    Except.ok.inj (hsubtotal.symm.trans hundiscounted)
  rw [← Basket.currency_subtotal hsubtotal] at hafter
  have hshown : (charged.shown vouchers).total = charged.total := by rw [shown_eq]
  rw [hshown]
  exact hrecorded.totalAfter h.entered htotal hafter hcharged

end Order

/-! ## Both -/

namespace Checkout

variable {checkout checkout' : Checkout} {order order' : Order} {channel : Channel}
  {promotions : Promotions} {vouchers : Vouchers} {now : Instant}

/-- The checkout and the order are of the same wares in one channel, shipped at one price, with the
same voucher. -/
structure SamePurchase (channel : Channel) (vouchers : Vouchers) (checkout : Checkout)
    (order : Order) : Prop where
  channel_eq : order.channel = checkout.channel
  currency : order.currency = checkout.currency
  lines : List.Forall₂ Line.SameWares checkout.lines order.lines
  isShippingRequired : checkout.isShippingRequired
  shipping : order.baseShippingPrice = checkout.deliveryPrice channel
  voucher : ∃ key voucher, checkout.voucher = some key ∧ order.Redeems vouchers key voucher

/-- A checkout that kept its voucher and an order stay of one purchase. -/
theorem SamePurchase.of_keeps (h : checkout.SamePurchase channel vouchers order)
    (hkeeps : checkout.Keeps checkout') (hdeal : order.SameDeal order')
    (hcode : checkout'.voucherCode.isSome) : checkout'.SamePurchase channel vouchers order' := by
  refine ⟨?_, ?_, ?_, ?_, ?_, ?_⟩
  · rw [hdeal.channel, h.channel_eq, hkeeps.channel]
  · rw [hdeal.currency, h.currency, hkeeps.currency]
  · have hleft := forall₂_trans hkeeps.lines.flip h.lines
      fun _ _ _ hgoods hwares => hgoods.sameWares.symm.trans hwares
    exact forall₂_trans hleft hdeal.lines fun _ _ _ hwares hgoods => hwares.trans hgoods.sameWares
  · rw [hkeeps.isShippingRequired]
    exact h.isShippingRequired
  · rw [hdeal.baseShippingPrice, h.shipping, hkeeps.deliveryPrice]
  · obtain ⟨key, voucher, hkey, hredeems⟩ := h.voucher
    rcases hkeeps.voucher with hnone | ⟨hvoucher, -⟩
    · rw [hnone] at hcode
      contradiction
    · exact ⟨key, voucher, hvoucher.trans hkey, hredeems.sameDeal hdeal⟩

/-- The order comes to what the checkout shows as its base total less its discount. With a voucher
of single products the order comes to the base total. -/
def ComesTo (vouchers : Vouchers) (checkout : Checkout) (order : Order) : Prop :=
  ∃ key voucher, checkout.voucher = some key ∧ vouchers.vouchers.get? key = some voucher ∧
    match voucher.voucherType with
    | .entireOrder => checkout.baseTotal.sub checkout.discount.amount = .ok order.total
    | .shipping => checkout.baseTotal.sub checkout.discount.amount = .ok order.total
    | .specificProduct => order.total = checkout.baseTotal

/-- A checkout that keeps its voucher and an order of the same purchase that are reconciled at the
same time. -/
theorem SamePurchase.comesTo_of_reconcile {ledger ledger' ledger₂ ledger₂' : Ledger}
    {rest rest₂ : List DiscountRecord} {report report₂ : SyncReport}
    (h : checkout.SamePurchase channel vouchers order)
    (hheld : checkout.toBasket.HeldIn ledger rest) (hheld₂ : order.toBasket.HeldIn ledger₂ rest₂)
    (hregular : checkout.toBasket.Regular) (hregular₂ : order.toBasket.Regular)
    (hcheckout : (reconcile channel promotions vouchers now).runOn (checkout, ledger) =
      (.ok report, (checkout', ledger')))
    (horder : (Order.reconcile promotions vouchers now).runOn (order, ledger₂) =
      (.ok report₂, (order', ledger₂')))
    (hcode : checkout'.voucherCode.isSome) : checkout'.ComesTo vouchers order' := by
  obtain ⟨key, voucher, hkey, hredeems⟩ := h.voucher
  have hkey' : checkout'.voucher = some key := by
    rcases (keeps_reconcile hheld hregular hcheckout).voucher with hnone | ⟨hvoucher, -⟩
    · rw [hnone] at hcode
      contradiction
    · exact hvoucher.trans hkey
  obtain ⟨found, lines, synced, hfound, hamount, hlines, hsynced, hsubtotal, htotal⟩ :=
    exists_of_reconcile h.isShippingRequired hheld hregular hcheckout hkey'
  obtain rfl : voucher = found := Option.some.inj (hredeems.entered.symm.trans hfound)
  obtain ⟨subtotal₂, lines₂, synced₂, hcharged, hlines₂, hsynced₂, hsubtotal₂⟩ :=
    hredeems.exists_of_reconcile hheld₂ hregular₂ horder
  rw [h.channel_eq] at hlines₂ hcharged
  rw [h.currency, baseSubtotal_of_sameWares h.lines hlines hlines₂ hsynced hsynced₂] at hsubtotal₂
  obtain rfl : checkout'.baseSubtotal = subtotal₂ :=
    Except.ok.inj (hsubtotal.symm.trans hsubtotal₂)
  rw [h.shipping] at hcharged
  refine ⟨key, voucher, hkey', hfound, ?_⟩
  have hshown : ∀ price, voucher.base? checkout'.baseSubtotal (checkout.deliveryPrice channel) =
      some price → checkout'.baseTotal.sub checkout'.discount.amount = .ok order'.total := by
    intro price hprice
    obtain ⟨total, off, htotal', hoff, hleft⟩ :=
      (Voucher.totalAfter_of_base?_eq_some hprice).1 hcharged
    rwa [Except.ok.inj (htotal'.symm.trans htotal),
      Except.ok.inj (hoff.symm.trans (hamount price hprice))] at hleft
  cases htype : voucher.voucherType with
  | entireOrder => exact hshown checkout'.baseSubtotal (by rw [Voucher.base?, htype])
  | shipping => exact hshown (checkout.deliveryPrice channel) (by rw [Voucher.base?, htype])
  | specificProduct =>
    have hnone : voucher.base? checkout'.baseSubtotal (checkout.deliveryPrice channel) = none := by
      rw [Voucher.base?, htype]
    have hcharged := (Voucher.totalAfter_of_base?_eq_none hnone).1 hcharged
    exact Except.ok.inj (hcharged.symm.trans htotal)

end Checkout

/-! ## Any number of reconciliations -/

namespace Scenario

variable {start scenario scenario' : Scenario} {times : List Instant} {now : Instant} {u : Unit}

theorem Held.keeps (hheld : scenario.Held)
    (hregular : ∀ basket ∈ scenario.baskets, basket.Regular)
    (h : (Scenario.reconcile now).runOn scenario = (.ok u, scenario')) :
    List.Forall₂ (fun before after => after.1 = before.1 ∧ before.2.Keeps after.2)
      scenario.checkouts scenario'.checkouts := by
  obtain ⟨-, hcheckouts, -⟩ := hheld.turns h
  refine forall₂_imp_of_mem hcheckouts fun checkout hcheckout _ _ ⟨hname, hturns⟩ => ⟨hname, ?_⟩
  obtain ⟨_, _, _, _, _, -, hheldIn, hreconcile⟩ := hturns
  exact Checkout.keeps_reconcile hheldIn
    (hregular checkout.2.toBasket (List.mem_append_left _ (List.mem_map_of_mem hcheckout)))
    hreconcile

theorem Run.keeps (h : Run start times scenario) (hheld : start.Held)
    (hregular : ∀ basket ∈ start.baskets, basket.Regular) :
    List.Forall₂ (fun before after => after.1 = before.1 ∧ before.2.Keeps after.2)
      start.checkouts scenario.checkouts :=
  h.forall₂ (fun checkout => ⟨rfl, .refl checkout.2⟩)
    (fun ⟨hname, hkeeps⟩ ⟨hname', hkeeps'⟩ => ⟨hname'.trans hname, hkeeps.trans hkeeps'⟩)
    Held.keeps hheld hregular

/-- What is related by name to the targets of a scenario is found under the names of these. -/
theorem exists_of_forall₂_names {τ τ' : Type} {R : τ → τ' → Prop} {targets : List (String × τ)}
    {targets' : List (String × τ')} {name : String} {target : τ}
    (h : List.Forall₂ (fun before after => after.1 = before.1 ∧ R before.2 after.2) targets
      targets')
    (hfound : (targets.find? (·.1 == name)).map Prod.snd = some target) :
    ∃ target', (targets'.find? (·.1 == name)).map Prod.snd = some target' ∧ R target target' := by
  obtain ⟨found, hfirst, rfl⟩ := Option.map_eq_some_iff.1 hfound
  obtain ⟨found', hfound', -, hrelated⟩ :=
    exists_find?_of_forall₂ h (q := (·.1 == name)) (fun _ _ ⟨hname, _⟩ => by rw [hname]) hfirst
  exact ⟨found'.2, Option.map_eq_some_iff.2 ⟨found', hfound', rfl⟩, hrelated⟩

theorem mem_baskets_of_checkout? {name : String} {checkout : Checkout}
    (h : scenario.checkout? name = some checkout) : checkout.toBasket ∈ scenario.baskets := by
  obtain ⟨found, hfound, rfl⟩ := Option.map_eq_some_iff.1 h
  exact List.mem_append_left _ (List.mem_map_of_mem (List.mem_of_find?_eq_some hfound))

theorem mem_baskets_of_order? {name : String} {order : Order}
    (h : scenario.order? name = some order) : order.toBasket ∈ scenario.baskets := by
  obtain ⟨found, hfound, rfl⟩ := Option.map_eq_some_iff.1 h
  exact List.mem_append_right _ (List.mem_map_of_mem (List.mem_of_find?_eq_some hfound))

/-- Whenever a scenario is reconciled, a checkout and an order of one purchase come to the same as
long as the checkout keeps its voucher. -/
theorem Run.comesTo {name name' : String} {checkout : Checkout} {order : Order} {channel : Channel}
    (h : Run start (times ++ [now]) scenario) (hheld : start.Held)
    (hregular : ∀ basket ∈ start.baskets, basket.Regular)
    (hcheckout : start.checkout? name = some checkout) (horder : start.order? name' = some order)
    (hchannel : start.channels.get? checkout.channel = some channel)
    (hsame : checkout.SamePurchase channel start.vouchers order) :
    ∃ checkout' order', scenario.checkout? name = some checkout' ∧
      scenario.order? name' = some order' ∧
      (checkout'.voucherCode.isSome → checkout'.ComesTo scenario.vouchers order') := by
  obtain ⟨earlier, hrun, hreconcile⟩ := run_concat_iff.1 h
  have hheld₁ := hrun.held hheld
  have hregular₁ := hrun.regular hheld hregular
  obtain ⟨checkout₁, hcheckout₁, hkeeps⟩ :=
    exists_of_forall₂_names (hrun.keeps hheld hregular) hcheckout
  obtain ⟨order₁, horder₁, hdeal⟩ :=
    exists_of_forall₂_names (hrun.sameDeal_orders hheld hregular) horder
  obtain ⟨-, hcheckouts, horders⟩ := hheld₁.turns hreconcile
  obtain ⟨checkout', hcheckout', hturn⟩ := exists_of_forall₂_names hcheckouts hcheckout₁
  obtain ⟨order', horder', hturn'⟩ := exists_of_forall₂_names horders horder₁
  refine ⟨checkout', order', hcheckout', horder', fun hcode => ?_⟩
  have hmine := hregular₁ _ (mem_baskets_of_checkout? hcheckout₁)
  have hmine' := hregular₁ _ (mem_baskets_of_order? horder₁)
  obtain ⟨found, _, _, _, _, hfound, hheldIn, hturn⟩ := hturn
  obtain ⟨_, _, _, _, _, -, hheldIn', hturn'⟩ := hturn'
  have hshop := hrun.eq
  have hchannel₁ : earlier.channels.get? checkout₁.channel = some channel := by
    rw [hshop, hkeeps.channel]
    exact hchannel
  obtain rfl : channel = found := Option.some.inj (hchannel₁.symm.trans hfound)
  have hvouchers : earlier.vouchers = start.vouchers := by rw [hshop]
  have hcode₁ : checkout₁.voucherCode.isSome := by
    rcases (Checkout.keeps_reconcile hheldIn hmine hturn).voucher with hnone | ⟨-, hcode₁⟩
    · rw [hnone] at hcode
      contradiction
    · exact hcode₁ ▸ hcode
  have hsame₁ := hsame.of_keeps hkeeps hdeal hcode₁
  rw [← hvouchers] at hsame₁
  rw [eq_of_reconcile_eq_ok hreconcile]
  exact hsame₁.comesTo_of_reconcile hheldIn hheldIn' hmine hmine' hturn hturn' hcode

end Scenario

end Retail
