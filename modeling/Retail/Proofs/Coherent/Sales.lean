import Retail.Proofs.Coherent.Shop
import Retail.Proofs.Fresh

/-!
# Coherent checkouts and orders

Checkouts and orders are of a channel and sell in its currency, and their vouchers are those of the
codes with which they came. Reconciling keeps them so, whenever and however often it is done.

## Main definitions

* `Line.Sold`: a line sold at a price in a currency
* `Basket.Coherent`, `Checkout.Coherent`, `Order.Coherent`, `Scenario.Coherent`

## Main results

* `Assembly.Loaded.coherent_of_run`: a scenario is coherent after any run
-/

namespace Retail

/-! ## Checkouts and orders -/

/-- The line has a full price in the currency, and the total that it comes to. -/
structure Line.Sold (currency : Currency) (line : Line) : Prop where
  price : line.undiscountedUnitPrice.IsIn currency
  total : line.undiscountedUnitPrice.times line.quantity = .ok line.undiscountedTotalPrice

theorem Line.Sold.sameGoods {currency : Currency} {line other : Line} (h : line.Sold currency)
    (hsame : line.SameGoods other) : other.Sold currency := by
  refine ⟨?_, ?_⟩
  · rw [hsame.undiscountedUnitPrice]
    exact h.price
  · rw [hsame.undiscountedUnitPrice, hsame.quantity, hsame.undiscountedTotalPrice]
    exact h.total

section Targets

variable {channels channels' : Registry .channel Channel} {vouchers vouchers' : Vouchers}

/-- The basket is of a channel and sells in its currency. -/
structure Basket.Coherent (channels : Registry .channel Channel) (basket : Basket) : Prop where
  channel : ∃ channel, channels.get? basket.channel = some channel ∧ channel.Coherent ∧
    channel.currency = basket.currency
  lines : ∀ line ∈ basket.lines, line.Sold basket.currency

/-- The voucher of the checkout is that of its code. -/
structure Checkout.Coherent (channels : Registry .channel Channel) (vouchers : Vouchers)
    (checkout : Checkout) : Prop extends Basket.Coherent channels checkout.toBasket where
  unnamed : checkout.voucherCode = none → checkout.voucher = none
  named : ∀ text, checkout.voucherCode = some text → ∃ code voucher,
    vouchers.codeOf? text = some code ∧ checkout.voucher = some code.voucher ∧
    vouchers.vouchers.get? code.voucher = some voucher

/-- Shipping costs nothing or what a method costs in the channel of the order, in the currency of
the order, and its voucher is in the book. -/
structure Order.Coherent (channels : Registry .channel Channel) (vouchers : Vouchers)
    (order : Order) : Prop extends Basket.Coherent channels order.toBasket where
  shipping : order.baseShippingPrice.IsIn order.currency
  method : order.baseShippingPrice = .zero order.currency ∨ ∃ channel method,
    channels.get? order.channel = some channel ∧
    channel.shippingPrice method = some order.baseShippingPrice
  voucher : ∀ key, order.voucher = some key →
    ∃ voucher, vouchers.vouchers.get? key = some voucher

theorem Basket.Coherent.sameSale {basket other : Basket} (h : basket.Coherent channels)
    (hsale : basket.SameSale other) : other.Coherent channels := by
  obtain ⟨channel, hchannel, hcoherent, hcurrency⟩ := h.channel
  refine ⟨⟨channel, hsale.channel ▸ hchannel, hcoherent, hsale.currency ▸ hcurrency⟩, ?_⟩
  intro line hline
  obtain ⟨source, hsource, hsame⟩ := exists_left_of_forall₂ hsale.lines hline
  exact hsale.currency ▸ (h.lines source hsource).sameGoods hsame

/-! ## Reconciling -/

/-- A checkout keeps its voucher with its code, or loses both. -/
theorem Checkout.Coherent.reconcile {checkout checkout' : Checkout} {ledger ledger' : Ledger}
    {rest : List DiscountRecord} {channel : Channel} {promotions : Promotions} {now : Instant}
    {report : SyncReport} (h : checkout.Coherent channels vouchers)
    (hheld : checkout.toBasket.HeldIn ledger rest) (hregular : checkout.toBasket.Regular)
    (hreconcile : (Checkout.reconcile channel promotions vouchers now).runOn (checkout, ledger) =
      (.ok report, (checkout', ledger'))) : checkout'.Coherent channels vouchers := by
  have hsale := (reconciled hheld hregular hreconcile).sameSale
  obtain ⟨lines, kept, settled, -, hdrop, hsettled, -, -, hshow⟩ :=
    exists_settled hheld hregular hreconcile
  obtain ⟨hshown, -⟩ := eq_of_showVoucher_eq_ok hshow
  have hvouchers : checkout'.voucher = kept.voucher ∧ checkout'.voucherCode = kept.voucherCode := by
    rw [hshown, hsettled.eq]
    exact ⟨rfl, rfl⟩
  refine ⟨h.toCoherent.sameSale hsale, ?_, ?_⟩
  · rw [hvouchers.1, hvouchers.2]
    obtain ⟨rfl | rfl, -⟩ := eq_or_eq_of_dropInvalidVoucher_eq_ok hdrop
    · exact h.unnamed
    · exact fun _ => rfl
  · rw [hvouchers.1, hvouchers.2]
    obtain ⟨rfl | rfl, -⟩ := eq_or_eq_of_dropInvalidVoucher_eq_ok hdrop
    · exact h.named
    · intro text htext
      contradiction

theorem Order.Coherent.sameDeal {order order' : Order} (h : order.Coherent channels vouchers)
    (hdeal : order.SameDeal order') : order'.Coherent channels vouchers := by
  refine ⟨h.toCoherent.sameSale hdeal.toSameSale, ?_, ?_, ?_⟩
  · rw [hdeal.baseShippingPrice, hdeal.currency]
    exact h.shipping
  · rw [hdeal.baseShippingPrice, hdeal.currency, hdeal.channel]
    exact h.method
  · rw [hdeal.voucher]
    exact h.voucher

end Targets

namespace Scenario

/-- Every checkout and every order is coherent. -/
structure Coherent (scenario : Scenario) : Prop where
  checkouts : ∀ checkout ∈ scenario.checkouts,
    checkout.2.Coherent scenario.channels scenario.vouchers
  orders : ∀ order ∈ scenario.orders, order.2.Coherent scenario.channels scenario.vouchers

variable {start scenario scenario' : Scenario} {now : Instant} {times : List Instant} {u : Unit}

theorem mem_baskets_of_mem_checkouts {checkout : String × Checkout}
    (h : checkout ∈ scenario.checkouts) : checkout.2.toBasket ∈ scenario.baskets :=
  List.mem_append_left _ (List.mem_map_of_mem h)

theorem mem_baskets_of_mem_orders {order : String × Order} (h : order ∈ scenario.orders) :
    order.2.toBasket ∈ scenario.baskets :=
  List.mem_append_right _ (List.mem_map_of_mem h)

theorem Coherent.reconcile (h : scenario.Coherent) (hheld : scenario.Held)
    (hregular : ∀ basket ∈ scenario.baskets, basket.Regular)
    (hreconcile : (Scenario.reconcile now).runOn scenario = (.ok u, scenario')) :
    scenario'.Coherent := by
  obtain ⟨-, hcheckouts, horders⟩ := hheld.turns hreconcile
  rw [eq_of_reconcile_eq_ok hreconcile]
  refine ⟨fun checkout hcheckout => ?_, fun order horder => ?_⟩
  · obtain ⟨source, hsource, -, channel, report, ledger, ledger', rest, -, hin, hturn⟩ :=
      exists_left_of_forall₂ hcheckouts hcheckout
    exact (h.checkouts source hsource).reconcile hin
      (hregular _ (mem_baskets_of_mem_checkouts hsource)) hturn
  · obtain ⟨source, hsource, -, hturns⟩ := exists_left_of_forall₂ horders horder
    exact (h.orders source hsource).sameDeal
      (hturns.sameDeal (hregular _ (mem_baskets_of_mem_orders hsource)))

theorem Run.coherent (h : Run start times scenario) (hcoherent : start.Coherent)
    (hheld : start.Held) (hregular : ∀ basket ∈ start.baskets, basket.Regular) :
    scenario.Coherent := by
  induction h with
  | nil => exact hcoherent
  | snoc hrun hreconcile ih =>
    exact ih.reconcile (hrun.held hheld) (hrun.regular hheld hregular) hreconcile

end Scenario

/-! ## Assembling -/

namespace Assembly

variable {a a' : Assembly} {channelKey : ChannelKey} {channel : Channel}

/-- The price of a line is one that its variant lists in the channel. -/
theorem Sells.sold {entry : LineEntry} {line : Line} (h : a.Sells channelKey entry line)
    (hcoherent : a.Coherent) (hchannel : a.scenario.channels.get? channelKey = some channel) :
    line.Sold channel.currency := by
  obtain ⟨variant, hvariant, hprice⟩ := Option.bind_eq_some_iff.1 h.price
  obtain ⟨found, hfound, hin⟩ := hcoherent.prices variant
    (List.mem_map_of_mem (Registry.get?_eq_some.1 hvariant)) _ (exists_mem_of_lookup hprice)
  obtain rfl : channel = found := Option.some.inj (hchannel.symm.trans hfound)
  exact ⟨hin, h.total⟩

/-- What a checkout or an order sells when it is entered. -/
theorem Coherent.basket {basket : Basket} {name : String} {entries : List LineEntry}
    (hcoherent : a.Coherent) (hchannel : a.channel name = .ok (basket.channel, channel))
    (hcurrency : basket.currency = channel.currency)
    (hlines : List.Forall₂ (a.Sells basket.channel) entries basket.lines) :
    basket.Coherent a.scenario.channels := by
  have hfound := get?_of_channel_eq_ok hchannel
  have hmem : channel ∈ a.scenario.channels.values :=
    List.mem_map_of_mem (Registry.get?_eq_some.1 hfound)
  refine ⟨⟨channel, hfound, hcoherent.channels channel hmem, hcurrency.symm⟩, fun line hline => ?_⟩
  obtain ⟨_, -, hsells⟩ := exists_left_of_forall₂ hlines hline
  exact hcurrency ▸ hsells.sold hcoherent hfound

/-- The voucher of a code is in the book. -/
theorem exists_of_voucherOfCode {text : String} {key : VoucherKey} (hcoherent : a.Coherent)
    (h : a.voucherOfCode text = .ok key) :
    ∃ code voucher, a.scenario.vouchers.codeOf? text = some code ∧ key = code.voucher ∧
      a.scenario.vouchers.vouchers.get? code.voucher = some voucher := by
  rw [voucherOfCode] at h
  cases hcode : a.scenario.vouchers.codeOf? text with
  | none => rw [Vouchers.codeOf?] at hcode; simp [hcode] at h
  | some code =>
    obtain ⟨voucher, hvoucher⟩ := hcoherent.codes code (Vouchers.mem_values_of_codeOf? hcode)
    rw [Vouchers.codeOf?] at hcode
    exact ⟨code, voucher, rfl, by simpa [hcode] using h.symm, hvoucher⟩

theorem Opens.coherent {entry : BasketEntry} {checkout : Checkout}
    (h : a.Opens entry checkout channel) (hcoherent : a.Coherent) :
    checkout.Coherent a.scenario.channels a.scenario.vouchers := by
  refine ⟨hcoherent.basket h.channel_eq h.currency h.lines, fun hcode => ?_, fun text htext => ?_⟩
  · have hvoucher := isSome_of_optionMapM_eq_ok h.voucher
    rw [← h.voucherCode, hcode] at hvoucher
    simpa using hvoucher
  · have hvoucher := h.voucher
    rw [← h.voucherCode, htext] at hvoucher
    simp only [Option.mapM_some, map_eq_pure_bind, bind_eq_ok, pure_eq_ok] at hvoucher
    obtain ⟨key, hkey, hvoucher⟩ := hvoucher
    obtain ⟨code, voucher, hfound, rfl, hentered⟩ := exists_of_voucherOfCode hcoherent hkey
    exact ⟨code, voucher, hfound, hvoucher.symm, hentered⟩

/-- Shipping of an order that is placed costs nothing or what the channel lists. -/
theorem Places.shippingPrice {entry : OrderEntry} {order : Order}
    (h : a.Places entry order channel) :
    order.baseShippingPrice = .zero order.currency ∨
      ∃ method, channel.shippingPrice method = some order.baseShippingPrice := by
  obtain ⟨shipping, hshipping, hprice⟩ := h.shipping
  rw [hprice, h.currency]
  cases shipping with
  | none => exact .inl rfl
  | some price =>
    obtain ⟨name, -, hlisted⟩ := exists_of_optionMapM_eq_ok hshipping rfl
    simp only [Assembly.shippingPrice, bind_eq_ok] at hlisted
    obtain ⟨method, -, hlisted⟩ := hlisted
    cases hfound : channel.shippingPrice method with
    | none => simp [hfound] at hlisted
    | some found =>
      obtain rfl : found = price := by simpa [hfound] using hlisted
      exact .inr ⟨method, hfound⟩

theorem Places.coherent {entry : OrderEntry} {order : Order} (h : a.Places entry order channel)
    (hcoherent : a.Coherent) : order.Coherent a.scenario.channels a.scenario.vouchers := by
  have hchannel := get?_of_channel_eq_ok h.channel_eq
  refine ⟨hcoherent.basket h.channel_eq h.currency h.lines, ?_,
    h.shippingPrice.imp_right fun ⟨method, hprice⟩ => ⟨channel, method, hchannel, hprice⟩,
    fun key hkey => ?_⟩
  · rcases h.shippingPrice with hfree | ⟨method, hprice⟩
    · rw [hfree]
      exact Money.isIn_zero _
    · have hmem : channel ∈ a.scenario.channels.values :=
        List.mem_map_of_mem (Registry.get?_eq_some.1 hchannel)
      rw [h.currency]
      exact (hcoherent.channels channel hmem).shippingPrice hprice
  · obtain ⟨voucher, hvoucher, hnoted⟩ := h.voucher
    rw [hkey, eq_comm, Option.map_eq_some_iff] at hnoted
    obtain ⟨⟨_, discount⟩, rfl, rfl⟩ := hnoted
    obtain ⟨text, -, htext⟩ := exists_of_optionMapM_eq_ok hvoucher rfl
    obtain ⟨terms, _, -, hentered, -, -⟩ := voucherDiscount_eq_ok.1 htext
    exact ⟨terms, hentered⟩

theorem Extends.checkout {checkout : Checkout} (h : a.Extends a')
    (hcoherent : checkout.Coherent a.scenario.channels a.scenario.vouchers) :
    checkout.Coherent a'.scenario.channels a'.scenario.vouchers := by
  obtain ⟨channel, hchannel, hrest⟩ := hcoherent.channel
  refine ⟨⟨⟨channel, h.channels hchannel, hrest⟩, hcoherent.lines⟩, hcoherent.unnamed,
    fun text htext => ?_⟩
  obtain ⟨code, voucher, hcode, hvoucher, hentered⟩ := hcoherent.named text htext
  exact ⟨code, voucher, h.codes hcode, hvoucher, h.vouchers hentered⟩

theorem Extends.order {order : Order} (h : a.Extends a')
    (hcoherent : order.Coherent a.scenario.channels a.scenario.vouchers) :
    order.Coherent a'.scenario.channels a'.scenario.vouchers := by
  obtain ⟨channel, hchannel, hrest⟩ := hcoherent.channel
  refine ⟨⟨⟨channel, h.channels hchannel, hrest⟩, hcoherent.lines⟩, hcoherent.shipping,
    hcoherent.method.imp_right fun ⟨channel, method, hfound, hprice⟩ =>
      ⟨channel, method, h.channels hfound, hprice⟩, fun key hkey => ?_⟩
  obtain ⟨voucher, hvoucher⟩ := hcoherent.voucher key hkey
  exact ⟨voucher, h.vouchers hvoucher⟩

/-- Both the shop and what is sold in it. -/
def Sound (a : Assembly) : Prop := a.Coherent ∧ a.scenario.Coherent

theorem sound_addCheckout {entry : String × BasketEntry} (h : a.addCheckout entry = .ok a')
    (hsound : a.Sound) : a'.Sound := by
  obtain ⟨hcoherent, hcheckouts, horders⟩ := hsound
  have hcoherent' := (sameShop_addCheckout h).extends.coherent hcoherent
  obtain ⟨_, checkout, _, rfl, hopens⟩ := exists_of_addCheckout h
  refine ⟨hcoherent', ?_, horders⟩
  exact List.forall_mem_append.2
    ⟨hcheckouts, List.forall_mem_singleton.2 (hopens.coherent hcoherent)⟩

theorem sound_addOrder {entry : String × OrderEntry} (h : a.addOrder entry = .ok a')
    (hsound : a.Sound) : a'.Sound := by
  obtain ⟨hcoherent, hcheckouts, horders⟩ := hsound
  have hcoherent' := (sameShop_addOrder h).extends.coherent hcoherent
  obtain ⟨_, _, order, _, rfl, -, hplaces⟩ := exists_of_addOrder h
  refine ⟨hcoherent', hcheckouts, ?_⟩
  exact List.forall_mem_append.2
    ⟨horders, List.forall_mem_singleton.2 (hplaces.coherent hcoherent)⟩

theorem sound_add {manifest : Manifest} (h : a.add manifest = .ok a') (hsound : a.Sound) :
    a'.Sound := by
  rcases sameSales_or_orders_of_add h with hsame | ⟨sales, -, hsales⟩
  · have hextends := extends_add h
    refine ⟨hextends.coherent hsound.1, ?_, ?_⟩
    · rw [hsame.checkouts]
      exact fun checkout hcheckout => hextends.checkout (hsound.2.checkouts checkout hcheckout)
    · rw [hsame.orders]
      exact fun order horder => hextends.order (hsound.2.orders order horder)
  · simp only [addSales, bind_eq_ok] at hsales
    obtain ⟨a₁, hcheckouts, horders⟩ := hsales
    have hopened := foldlM_eq_ok_induction (fun _ _ _ _ => sound_addCheckout) hcheckouts hsound
    exact foldlM_eq_ok_induction (fun _ _ _ _ => sound_addOrder) horders hopened

theorem Loaded.sound (h : a.Loaded) : a.Sound := by
  induction h with
  | empty =>
    exact ⟨⟨List.forall_mem_nil _, List.forall_mem_nil _, List.forall_mem_nil _,
      List.forall_mem_nil _⟩, List.forall_mem_nil _, List.forall_mem_nil _⟩
  | load _ hload ih =>
    obtain ⟨_, _, -, -, hadd⟩ := exists_of_load hload
    exact sound_add hadd ih

/-- Whenever a scenario is reconciled, it stays coherent. -/
theorem Loaded.coherent_of_run {times : List Instant} {scenario : Scenario} (h : a.Loaded)
    (hrun : Scenario.Run a.scenario times scenario) : scenario.Coherent :=
  hrun.coherent h.sound.2 h.held h.regular

end Assembly

end Retail
