import Retail.Proofs.Settled

/-!
# What promotions leave alone

Reconciling changes prices, base prices, the discount that is shown and the records of promotions.
What is sold, the voucher and the other records stay, but for the amounts that these note; only a
checkout may lose its voucher.

## Main definitions

* `Basket.SameDeal`, `Checkout.SameDeal`, `Order.SameDeal`: they differ at most in what promotions
  made of them

## Main results

* `Checkout.sameDeal_reconcile`, `Order.sameDeal_reconcile`: what reconciling keeps
-/

namespace Retail

/-! ## Baskets -/

section Baskets

variable {basket other third : Basket}

/-- The baskets sell the same with the same voucher and the same records, but for those of
promotions and for amounts. -/
structure Basket.SameDeal (basket other : Basket) : Prop extends basket.SameSale other where
  voucher : other.voucher = basket.voucher
  voucherCode : other.voucherCode = basket.voucherCode
  others : List.Forall₂ DiscountRecord.SameButAmount basket.otherDiscounts other.otherDiscounts

theorem Basket.SameDeal.refl (basket : Basket) : basket.SameDeal basket :=
  ⟨.refl basket, rfl, rfl, List.forall₂_same.2 fun _ _ => rfl⟩

theorem Basket.SameDeal.trans (h : basket.SameDeal other) (h' : other.SameDeal third) :
    basket.SameDeal third :=
  ⟨h.toSameSale.trans h'.toSameSale, h'.voucher.trans h.voucher,
    h'.voucherCode.trans h.voucherCode,
    forall₂_trans h.others h'.others fun _ _ _ => DiscountRecord.SameButAmount.trans⟩

theorem Basket.SameDeal.voucherNoted (h : basket.SameDeal other) (hnoted : basket.VoucherNoted) :
    other.VoucherNoted :=
  hnoted.congr h.voucherCode h.others

end Baskets

/-! ## Checkouts -/

namespace Checkout

variable {checkout other third checkout' : Checkout} {ledger ledger' : Ledger}
  {rest : List DiscountRecord} {channel : Channel} {promotions : Promotions} {vouchers : Vouchers}
  {now : Instant} {report : SyncReport}

/-- The checkouts differ at most in what promotions made of them. -/
structure SameDeal (checkout other : Checkout) : Prop
    extends Basket.SameDeal checkout.toBasket other.toBasket where
  discounts : other.otherDiscounts = checkout.otherDiscounts
  shippingMethod : other.shippingMethod = checkout.shippingMethod
  isShippingRequired : other.isShippingRequired = checkout.isShippingRequired

theorem SameDeal.refl (checkout : Checkout) : checkout.SameDeal checkout :=
  ⟨.refl checkout.toBasket, rfl, rfl, rfl⟩

theorem SameDeal.trans (h : checkout.SameDeal other) (h' : other.SameDeal third) :
    checkout.SameDeal third :=
  ⟨h.toSameDeal.trans h'.toSameDeal, h'.discounts.trans h.discounts,
    h'.shippingMethod.trans h.shippingMethod, h'.isShippingRequired.trans h.isShippingRequired⟩

/-- Without a voucher code there is no voucher to drop. -/
theorem runOn_dropInvalidVoucher_of_none (hcode : checkout.voucherCode = none) :
    (dropInvalidVoucher vouchers now).runOn (checkout, ledger) = (.ok (), (checkout, ledger)) := by
  simp only [dropInvalidVoucher, Step.runOn_get_bind, hcode, Step.runOn_pure]

/-- A checkout without a voucher code is settled, and then shows its voucher. -/
theorem exists_settled_of_none (hcode : checkout.voucherCode = none)
    (hheld : checkout.toBasket.HeldIn ledger rest) (hregular : checkout.toBasket.Regular)
    (h : (reconcile channel promotions vouchers now).runOn (checkout, ledger) =
      (.ok report, (checkout', ledger'))) :
    ∃ lines settled,
      (cataloguePrices promotions checkout.channel now).runOn checkout.lines = (.ok (), lines) ∧
      ({ checkout with lines } : Checkout).toBasket.Settled (checkout.deliveryPrice channel)
        promotions now settled ∧
      settled.Regular ∧ settled.Placed ∧
      (showVoucher channel vouchers).runOn ({ checkout with toBasket := settled }, ledger') =
        (.ok (), (checkout', ledger')) := by
  obtain ⟨lines, kept, settled, hlines, hdrop, hsettled, hregular', hplaced, hshow⟩ :=
    exists_settled hheld hregular h
  have hnone : ({ checkout with lines } : Checkout).voucherCode = none := hcode
  rw [runOn_dropInvalidVoucher_of_none hnone] at hdrop
  obtain ⟨rfl, -⟩ := Prod.mk.inj (Prod.mk.inj hdrop).2
  exact ⟨lines, settled, hlines, hsettled, hregular', hplaced, hshow⟩

theorem sameDeal_reconcile (hcode : checkout.voucherCode = none)
    (hheld : checkout.toBasket.HeldIn ledger rest) (hregular : checkout.toBasket.Regular)
    (h : (reconcile channel promotions vouchers now).runOn (checkout, ledger) =
      (.ok report, (checkout', ledger'))) : checkout.SameDeal checkout' := by
  have hsale := (reconciled hheld hregular h).sameSale
  obtain ⟨lines, settled, -, hsettled, -, -, hshow⟩ :=
    exists_settled_of_none hcode hheld hregular h
  obtain ⟨hshown, -⟩ := eq_of_showVoucher_eq_ok hshow
  have hothers : settled.otherDiscounts = checkout.otherDiscounts := hsettled.otherDiscounts_eq
  rw [hshown] at hsale ⊢
  refine ⟨⟨hsale, ?_, ?_, ?_⟩, hothers, rfl, rfl⟩
  · show settled.voucher = checkout.voucher
    rw [hsettled.eq]
  · show settled.voucherCode = checkout.voucherCode
    rw [hsettled.eq]
  · show List.Forall₂ _ _ settled.otherDiscounts
    rw [hothers]
    exact List.forall₂_same.2 fun _ _ => rfl

end Checkout

/-! ## Orders -/

namespace Order

variable {order order' other third : Order} {vouchers : Vouchers}

/-- The orders differ at most in what promotions made of them. -/
structure SameDeal (order other : Order) : Prop
    extends Basket.SameDeal order.toBasket other.toBasket where
  baseShippingPrice : other.baseShippingPrice = order.baseShippingPrice

theorem SameDeal.refl (order : Order) : order.SameDeal order := ⟨.refl order.toBasket, rfl⟩

theorem SameDeal.trans (h : order.SameDeal other) (h' : other.SameDeal third) :
    order.SameDeal third :=
  ⟨h.toSameDeal.trans h'.toSameDeal, h'.baseShippingPrice.trans h.baseShippingPrice⟩

/-- Without a record of a voucher, an order shows what it showed before. -/
theorem shown_of_forall_kind_ne (h : ∀ record ∈ order.discounts, record.kind ≠ .voucher) :
    order.shown vouchers = order := by
  have hnone : order.discounts.find? (·.kind == .voucher) = none := by
    rw [List.find?_eq_none]
    exact fun record hrecord hkind => h record hrecord (beq_iff_eq.1 hkind)
  simp only [shown, hnone]

/-- Without a voucher code, an order shows what it showed before. -/
theorem shown_eq_self (hnoted : order.toBasket.VoucherNoted) (hcode : order.voucherCode = none) :
    order.shown vouchers = order := by
  -- A record of a voucher would come with a voucher code.
  apply shown_of_forall_kind_ne
  intro record hrecord hkind
  have hsome := hnoted.2 ⟨record, hrecord, hkind⟩
  rw [hcode] at hsome
  contradiction

/-- An order keeps its voucher and the records that no promotion gave. -/
theorem sameDeal_reconcile {ledger ledger' : Ledger} {rest : List DiscountRecord}
    {promotions : Promotions} {now : Instant} {report : SyncReport}
    (hheld : order.toBasket.HeldIn ledger rest) (hregular : order.toBasket.Regular)
    (h : (reconcile promotions vouchers now).runOn (order, ledger) =
      (.ok report, (order', ledger'))) : order.SameDeal order' := by
  have hsale := (reconciled hheld hregular h).sameSale
  obtain ⟨lines, settled, ledger₁, prices, charged, -, hsettled, -, -, hdiscounts, -, rfl⟩ :=
    exists_settled hheld hregular h
  have hcharged := charged_applyDiscounts hdiscounts
  rw [shown_eq, hcharged.eq] at hsale ⊢
  refine ⟨⟨hsale, ?_, ?_, ?_⟩, rfl⟩
  · show settled.voucher = order.voucher
    rw [hsettled.eq]
  · show settled.voucherCode = order.voucherCode
    rw [hsettled.eq]
  · have hothers : settled.otherDiscounts = order.otherDiscounts := hsettled.otherDiscounts_eq
    rw [← hothers]
    exact forall₂_filter_kind (· != .orderPromotion) hcharged.discounts

end Order

end Retail
