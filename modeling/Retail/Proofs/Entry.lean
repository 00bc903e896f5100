import Retail.Assembly.Sales
import Retail.Proofs.Discount.Ledger
import Retail.Proofs.Success

/-!
# Checkouts and orders as they are entered

A checkout or an order is entered behind the others, and the discounts of an order come with it into
the ledger. The shop stays as it is.

## Main definitions

* `Assembly.SameShop`: an assembly that kept everything but sales
* `Assembly.Sells`, `Assembly.Opens`, `Assembly.Places`: the line, the checkout, the order of an
  entry

## Main results

* `Assembly.exists_of_addCheckout`, `Assembly.exists_of_addOrder`: what entering one does
-/

namespace Retail

namespace Assembly

variable {a a' b : Assembly} {channelKey : ChannelKey} {channelName : String} {channel : Channel}

/-! ## The shop -/

/-- At most lines, checkouts, orders and records were entered. -/
def SameShop (a a' : Assembly) : Prop :=
  a' = { a with scenario := { a.scenario with
    ledger := a'.scenario.ledger
    lineKeys := a'.scenario.lineKeys
    checkouts := a'.scenario.checkouts
    orders := a'.scenario.orders } }

theorem SameShop.refl (a : Assembly) : a.SameShop a := rfl

theorem SameShop.trans (h : a.SameShop a') (h' : a'.SameShop b) : a.SameShop b := by
  rw [SameShop, h', h]

/-! ## Lines -/

/-- The line is of the variant and quantity of the entry, at the price in the channel and the total
that comes to, and has no records yet. -/
structure Sells (a : Assembly) (channelKey : ChannelKey) (entry : LineEntry) (line : Line) :
    Prop where
  variant : a.variantKey entry.variant = .ok line.variant
  quantity : line.quantity = entry.quantity
  price : (a.scenario.catalogue.variants.get? line.variant).bind (·.price channelKey) =
    some line.undiscountedUnitPrice
  total : line.undiscountedUnitPrice.times line.quantity = .ok line.undiscountedTotalPrice
  discounts : line.discounts = []

theorem SameShop.sells {entry : LineEntry} {line : Line} (h : a.SameShop a')
    (hsells : a'.Sells channelKey entry line) : a.Sells channelKey entry line := by
  obtain ⟨hvariant, hquantity, hprice, htotal, hnone⟩ := hsells
  rw [h] at hvariant hprice
  exact ⟨hvariant, hquantity, hprice, htotal, hnone⟩

theorem exists_of_addLine {entry : LineEntry} {line : Line}
    (h : addLine channelKey channelName a entry = .ok (a', line)) :
    ∃ lineKeys, a' = { a with scenario := { a.scenario with lineKeys } } ∧
      a.Sells channelKey entry line := by
  simp only [addLine, Line.create, bind_eq_ok, mapError_eq_ok, pure_eq_ok, Prod.mk.injEq] at h
  obtain ⟨variant, hvariant, price, hprice, _, ⟨_, htotal, rfl⟩, rfl, rfl⟩ := h
  refine ⟨_, rfl, hvariant, rfl, ?_, htotal, rfl⟩
  cases hlisted : (a.scenario.catalogue.variants.get? variant).bind (·.price channelKey) with
  | none => simp [hlisted] at hprice
  | some found =>
    simp only [hlisted, Option.elim_some, Except.ok.injEq] at hprice
    exact congrArg some hprice

theorem exists_of_addLines {entries : List LineEntry} {lines : List Line}
    (h : addLines channelKey channelName a entries = .ok (a', lines)) :
    ∃ lineKeys, a' = { a with scenario := { a.scenario with lineKeys } } ∧
      List.Forall₂ (a.Sells channelKey) entries lines := by
  induction entries generalizing a lines with
  | nil =>
    simp only [addLines, Except.ok.injEq, Prod.mk.injEq] at h
    obtain ⟨rfl, rfl⟩ := h
    exact ⟨_, rfl, .nil⟩
  | cons entry rest ih =>
    simp only [addLines, bind_eq_ok, pure_eq_ok, Prod.exists, Prod.mk.injEq] at h
    obtain ⟨_, line, hline, _, more, hmore, rfl, rfl⟩ := h
    obtain ⟨lineKeys, rfl, hsells⟩ := exists_of_addLine hline
    obtain ⟨_, rfl, hothers⟩ := ih hmore
    have hshop : a.SameShop { a with scenario := { a.scenario with lineKeys } } := rfl
    exact ⟨_, rfl, .cons hsells (hothers.imp fun _ _ => hshop.sells)⟩

theorem discounts_eq_nil_of_sells {entries : List LineEntry} {lines : List Line}
    (h : List.Forall₂ (a.Sells channelKey) entries lines) :
    ∀ line ∈ lines, line.discounts = [] := by
  intro line hline
  obtain ⟨_, -, hsells⟩ := exists_left_of_forall₂ h hline
  exact hsells.discounts

/-! ## Checkouts -/

theorem get?_of_channel_eq_ok {name : String} (h : a.channel name = .ok (channelKey, channel)) :
    a.scenario.channels.get? channelKey = some channel := by
  simp only [Assembly.channel, bind_eq_ok] at h
  obtain ⟨key, -, h⟩ := h
  split at h
  · rename_i found hfound
    obtain ⟨rfl, rfl⟩ := Prod.mk.inj (pure_eq_ok.1 h)
    exact hfound
  · exact (throw_eq_ok.1 h).elim

/-- The checkout is the one of the entry. -/
structure Opens (a : Assembly) (entry : BasketEntry) (checkout : Checkout) (channel : Channel) :
    Prop where
  channel_eq : a.channel entry.channel = .ok (checkout.channel, channel)
  currency : checkout.currency = channel.currency
  lines : List.Forall₂ (a.Sells checkout.channel) entry.lines checkout.lines
  shippingMethod : entry.shippingMethod.mapM a.shippingMethodKey = .ok checkout.shippingMethod
  isShippingRequired : checkout.isShippingRequired
  voucher : entry.voucherCode.mapM a.voucherOfCode = .ok checkout.voucher
  voucherCode : checkout.voucherCode = entry.voucherCode
  discount : checkout.discount = .none checkout.currency
  discounts : checkout.discounts = []

theorem SameShop.opens {entry : BasketEntry} {checkout : Checkout} (h : a.SameShop a')
    (hopens : a'.Opens entry checkout channel) : a.Opens entry checkout channel := by
  obtain ⟨hchannel, hcurrency, hlines, hmethod, hrequired, hvoucher, hcode, hshown, hnone⟩ := hopens
  have hlines := hlines.imp fun _ _ => h.sells
  rw [h] at hchannel hmethod hvoucher
  exact ⟨hchannel, hcurrency, hlines, hmethod, hrequired, hvoucher, hcode, hshown, hnone⟩

theorem exists_of_addCheckout {entry : String × BasketEntry} (h : a.addCheckout entry = .ok a') :
    ∃ lineKeys checkout channel, a' = { a with scenario := { a.scenario with
        lineKeys, checkouts := a.scenario.checkouts ++ [(entry.1, checkout)] } } ∧
      a.Opens entry.2 checkout channel := by
  simp only [addCheckout, bind_eq_ok, pure_eq_ok, Prod.exists] at h
  obtain ⟨key, channel, hchannel, _, lines, hlines, method, hmethod, voucher, hvoucher, rfl⟩ := h
  obtain ⟨_, rfl, hsells⟩ := exists_of_addLines hlines
  exact ⟨_, _, channel, rfl, hchannel, rfl, hsells, hmethod, rfl, hvoucher, rfl, rfl, rfl⟩

/-! ## Orders -/

theorem voucherDiscount_eq_ok {currency : Currency} {text : String} {key : VoucherKey}
    {discount : Discount} :
    a.voucherDiscount channelKey currency text = .ok (key, discount) ↔
      ∃ voucher value, a.voucherOfCode text = .ok key ∧
        a.scenario.vouchers.vouchers.get? key = some voucher ∧
        voucher.discountIn channelKey = .ok value ∧ discount = {
          scope := .order
          kind := .voucher
          valueType := value.valueType
          value := value.value
          amount := .zero currency
          voucher := some key
          voucherCode := some text } := by
  simp only [voucherDiscount, bind_eq_ok]
  constructor
  · rintro ⟨_, hkey, h⟩
    split at h
    · exact (throw_eq_ok.1 h).elim
    · rename_i voucher hvoucher
      simp only [bind_eq_ok, mapError_eq_ok, pure_eq_ok, Prod.mk.injEq] at h
      obtain ⟨value, hvalue, rfl, rfl⟩ := h
      exact ⟨voucher, value, hkey, hvoucher, hvalue, rfl⟩
  · rintro ⟨voucher, value, hkey, hvoucher, hvalue, rfl⟩
    refine ⟨key, hkey, ?_⟩
    rw [hvoucher]
    simp only [bind_eq_ok, mapError_eq_ok]
    exact ⟨value, hvalue, rfl⟩

theorem origin_of_manualDiscount {currency : Currency} {entry : ManualEntry} {discount : Discount}
    (h : manualDiscount currency entry = .ok discount) :
    discount.scope = .order ∧ discount.kind = .manual := by
  simp only [manualDiscount, bind_eq_ok, pure_eq_ok] at h
  obtain ⟨_, -, rfl⟩ := h
  exact ⟨rfl, rfl⟩

theorem exists_of_enterDiscounts {discounts : List Discount} {records : List DiscountRecord}
    (h : a.enterDiscounts discounts = (a', records)) :
    ∃ ledger, a' = { a with scenario := { a.scenario with ledger } } ∧
      ledger.toList = a.scenario.ledger.toList ++ records ∧
      records.map (·.toDiscount) = discounts := by
  unfold enterDiscounts at h
  split at h
  · rename_i hnone
    obtain ⟨rfl, rfl⟩ := Prod.mk.inj h
    exact ⟨_, rfl, (List.append_nil _).symm, (List.isEmpty_iff.1 hnone).symm⟩
  · obtain ⟨rfl, rfl⟩ := Prod.mk.inj h
    obtain ⟨hlist, hrecords⟩ := @Ledger.toList_create a.scenario.ledger discounts
    exact ⟨_, rfl, hlist, hrecords⟩

/-- The order is the one of the entry. -/
structure Places (a : Assembly) (entry : OrderEntry) (order : Order) (channel : Channel) :
    Prop where
  channel_eq : a.channel entry.channel = .ok (order.channel, channel)
  currency : order.currency = channel.currency
  lines : List.Forall₂ (a.Sells order.channel) entry.lines order.lines
  shipping : ∃ shipping, entry.shippingMethod.mapM (a.shippingPrice channel) = .ok shipping ∧
    order.baseShippingPrice = shipping.getD (.zero channel.currency)
  voucherCode : order.voucherCode = entry.voucherCode
  voucher : ∃ voucher,
    entry.voucherCode.mapM (a.voucherDiscount order.channel channel.currency) = .ok voucher ∧
    order.voucher = voucher.map Prod.fst
  discount : order.discount = .none order.currency
  discounts : ∃ voucher manual,
    entry.voucherCode.mapM (a.voucherDiscount order.channel channel.currency) = .ok voucher ∧
    entry.manual.mapM (manualDiscount channel.currency) = .ok manual ∧
    order.discounts.map (·.toDiscount) = (voucher.map Prod.snd).toList ++ manual.toList

section Places

variable {entry : OrderEntry} {order : Order}

theorem SameShop.places (h : a.SameShop a') (hplaces : a'.Places entry order channel) :
    a.Places entry order channel := by
  obtain ⟨hchannel, hcurrency, hlines, hshipping, hcode, hvoucher, hnone, hdiscounts⟩ := hplaces
  have hlines := hlines.imp fun _ _ => h.sells
  rw [h] at hchannel hshipping hvoucher hdiscounts
  exact ⟨hchannel, hcurrency, hlines, hshipping, hcode, hvoucher, hnone, hdiscounts⟩

theorem exists_of_addOrder {entry : String × OrderEntry} (h : a.addOrder entry = .ok a') :
    ∃ ledger lineKeys order channel, a' = { a with scenario := { a.scenario with
        ledger, lineKeys, orders := a.scenario.orders ++ [(entry.1, order)] } } ∧
      ledger.toList = a.scenario.ledger.toList ++ order.discounts ∧
      a.Places entry.2 order channel := by
  simp only [addOrder, bind_eq_ok, pure_eq_ok, Prod.exists] at h
  obtain ⟨key, channel, hchannel, a₁, lines, hlines, shipping, hshipping, voucher, hvoucher, manual,
    hmanual, rfl⟩ := h
  obtain ⟨_, rfl, hsells⟩ := exists_of_addLines hlines
  rcases henter : enterDiscounts _ ((voucher.map Prod.snd).toList ++ manual.toList) with
    ⟨_, records⟩
  obtain ⟨_, rfl, hlist, hrecords⟩ := exists_of_enterDiscounts henter
  exact ⟨_, _, _, channel, rfl, hlist, hchannel, rfl, hsells, ⟨shipping, hshipping, rfl⟩, rfl,
    ⟨voucher, hvoucher, rfl⟩, rfl, voucher, manual, hvoucher, hmanual, hrecords⟩

/-- The discounts with which an order is placed hang on the order, and no promotion gave them. -/
theorem Places.origin (h : a.Places entry order channel) {record : DiscountRecord}
    (hrecord : record ∈ order.discounts) :
    record.scope = .order ∧ (record.kind = .voucher ∨ record.kind = .manual) := by
  obtain ⟨voucher, manual, hvoucher, hmanual, hrecords⟩ := h.discounts
  have hmem : record.toDiscount ∈ (voucher.map Prod.snd).toList ++ manual.toList :=
    hrecords ▸ List.mem_map_of_mem hrecord
  rw [List.mem_append, Option.mem_toList, Option.mem_toList, Option.map_eq_some_iff] at hmem
  rcases hmem with ⟨⟨key, discount⟩, hmem, hdiscount⟩ | hmem
  · obtain ⟨text, -, htext⟩ := exists_of_optionMapM_eq_ok hvoucher hmem
    obtain ⟨_, _, -, -, -, rfl⟩ := voucherDiscount_eq_ok.1 htext
    exact ⟨(congrArg Discount.scope hdiscount).symm, .inl (congrArg Discount.kind hdiscount).symm⟩
  · obtain ⟨_, -, hentry⟩ := exists_of_optionMapM_eq_ok hmanual hmem
    obtain ⟨hscope, hkind⟩ := origin_of_manualDiscount hentry
    exact ⟨hscope, .inr hkind⟩

end Places

end Assembly

end Retail
