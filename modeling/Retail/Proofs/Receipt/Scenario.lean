import Retail.Proofs.Purchase.Assembly
import Retail.Proofs.Receipt.Checkout
import Retail.Proofs.Receipt.Order

/-!
# Receipts of scenarios

Where no price and no value of a discount is below zero and totals have 64 bits, this stays so
whenever a scenario is reconciled. So receipts state what is charged and add up after any number of
reconciliations.

## Main definitions

* `Scenario.Payable`: a scenario in which no price and no value of a discount is below zero
* `Assembly.Nonnegative`, `Scenario.Fits`: what makes an assembled scenario so
* `Scenario.Receipted`: receipts that state what is charged and add up

## Main results

* `Scenario.Payable.reconcile`: one reconciliation
* `Assembly.Loaded.receipted_of_run`: any number of them, in an assembled scenario
-/

namespace Retail

/-- No price of the checkout is below zero, everything in it comes to 64 bits, and what it shows is
in its currency. -/
structure Checkout.Payable (channels : Registry .channel Channel) (checkout : Checkout) : Prop where
  nonneg : ∀ channel, channels.get? checkout.channel = some channel →
    checkout.Nonnegative channel
  fits : ∀ channel, channels.get? checkout.channel = some channel →
    fitsMinor (checkout.fullMinor (checkout.deliveryPrice channel))
  shown : checkout.discount.amount.IsIn checkout.currency

/-- No price of the order and no value of its discounts is below zero, and everything in it comes to
64 bits. -/
structure Order.Payable (order : Order) : Prop where
  nonneg : order.Nonnegative
  fits : fitsMinor (order.fullMinor order.baseShippingPrice)

theorem Order.Payable.sameDeal {order order' : Order} (h : order.Payable)
    (hdeal : order.SameDeal order') : order'.Payable := by
  refine ⟨h.nonneg.sameDeal hdeal, ?_⟩
  rw [hdeal.toSameSale.fullMinor, hdeal.baseShippingPrice]
  exact h.fits

/-- What is taken off a payable order has 64 bits. -/
theorem Order.Payable.fits_off {order : Order} {off : Money} (h : order.Payable)
    (hvalued : order.Valued order.baseShippingPrice) (hdiscounted : order.Discounted off) :
    fitsMinor off.minor := by
  obtain ⟨-, -, hfull⟩ := hvalued.bounds
  have hnonneg := hdiscounted.nonneg
  have hle := hdiscounted.le hvalued
  have hfits := h.fits
  rw [fitsMinor_iff] at hfits ⊢
  omega

namespace Scenario

variable {start scenario scenario' : Scenario} {now : Instant} {times : List Instant} {u : Unit}

/-- Neither a price nor the value of a discount is below zero, and totals have 64 bits. -/
structure Payable (scenario : Scenario) : Prop where
  promotions : scenario.promotions.Nonnegative
  vouchers : ∀ voucher ∈ scenario.vouchers.vouchers.values, voucher.Nonnegative
  checkouts : ∀ checkout ∈ scenario.checkouts, checkout.2.Payable scenario.channels
  orders : ∀ order ∈ scenario.orders, order.2.Payable

/-- Receipts state what is charged and add up. That of an order states its total, and that of a
checkout the base total without the discount that is shown. -/
structure Receipted (scenario : Scenario) : Prop where
  checkouts : ∀ checkout ∈ scenario.checkouts, ∀ title catalogue receipt,
    Receipt.ofCheckout title checkout.2 catalogue = .ok receipt →
      checkout.2.baseTotal.sub checkout.2.discount.amount = .ok receipt.total ∧
        receipt.Balanced checkout.2.toBasket
  orders : ∀ order ∈ scenario.orders, ∀ title catalogue receipt,
    Receipt.ofOrder title order.2 catalogue = .ok receipt →
      receipt.total = order.2.total ∧ receipt.Balanced order.2.toBasket

/-- A checkout that was reconciled is payable again, and its receipts add up. -/
theorem Payable.turnsCheckout {checkout checkout' : Checkout} (h : scenario.Payable)
    (hpayable : checkout.Payable scenario.channels)
    (hcoherent : checkout.Coherent scenario.channels scenario.vouchers)
    (hregular : checkout.toBasket.Regular)
    (hturns : scenario.TurnsCheckout now checkout checkout') :
    checkout'.Payable scenario.channels ∧ ∀ title catalogue receipt,
      Receipt.ofCheckout title checkout' catalogue = .ok receipt →
        checkout'.baseTotal.sub checkout'.discount.amount = .ok receipt.total ∧
          receipt.Balanced checkout'.toBasket := by
  obtain ⟨channel, _, _, _, _, hchannel, hheld, hturn⟩ := hturns
  have hnonneg := hpayable.nonneg channel hchannel
  have hfits := hpayable.fits channel hchannel
  have hkeeps := Checkout.keeps_reconcile hheld hregular hturn
  obtain ⟨-, hin, -, -⟩ := Checkout.bounds_of_reconcile hheld hregular hcoherent h.promotions
    h.vouchers hnonneg hfits hpayable.shown hturn
  refine ⟨⟨fun found hfound => ?_, fun found hfound => ?_, hin⟩, fun _ _ _ hreceipt =>
    Checkout.receipt_of_reconcile hheld hregular hcoherent h.promotions h.vouchers hnonneg hfits
      hpayable.shown hturn hreceipt⟩
  · rw [hkeeps.channel] at hfound
    exact (hpayable.nonneg found hfound).keeps hkeeps
  · rw [hkeeps.channel] at hfound
    rw [hkeeps.toSameSale.fullMinor, hkeeps.deliveryPrice]
    exact hpayable.fits found hfound

/-- Whatever was reconciled is payable again, and its receipts add up. -/
theorem Payable.reconcile (h : scenario.Payable) (hcoherent : scenario.Coherent)
    (hheld : scenario.Held) (hregular : ∀ basket ∈ scenario.baskets, basket.Regular)
    (hreconcile : (Scenario.reconcile now).runOn scenario = (.ok u, scenario')) :
    scenario'.Payable ∧ scenario'.Receipted := by
  obtain ⟨-, hcheckouts, horders⟩ := hheld.turns hreconcile
  have hcheckout : ∀ checkout ∈ scenario'.checkouts, checkout.2.Payable scenario.channels ∧
      ∀ title catalogue receipt, Receipt.ofCheckout title checkout.2 catalogue = .ok receipt →
        checkout.2.baseTotal.sub checkout.2.discount.amount = .ok receipt.total ∧
          receipt.Balanced checkout.2.toBasket := by
    intro checkout hmem
    obtain ⟨source, hsource, -, hturns⟩ := exists_left_of_forall₂ hcheckouts hmem
    exact h.turnsCheckout (h.checkouts source hsource) (hcoherent.checkouts source hsource)
      (hregular _ (mem_baskets_of_mem_checkouts hsource)) hturns
  have horder : ∀ order ∈ scenario'.orders, order.2.Payable ∧
      ∀ title catalogue receipt, Receipt.ofOrder title order.2 catalogue = .ok receipt →
        receipt.total = order.2.total ∧ receipt.Balanced order.2.toBasket := by
    intro order hmem
    obtain ⟨source, hsource, -, hturns⟩ := exists_left_of_forall₂ horders hmem
    have hmine := hregular _ (mem_baskets_of_mem_orders hsource)
    have hnonneg := (h.orders source hsource).nonneg
    have hpayable := (h.orders source hsource).sameDeal (hturns.sameDeal hmine)
    obtain ⟨_, _, _, _, _, -, hin, hturn⟩ := hturns
    obtain ⟨hvalued, off, hdiscounted⟩ := Order.discounted_reconcile hin hmine h.promotions hnonneg
      (hcoherent.orders source hsource).lines hturn
    refine ⟨hpayable, fun _ _ _ hreceipt => hdiscounted.receipt hvalued ?_ hreceipt⟩
    exact hpayable.fits_off hvalued hdiscounted
  refine ⟨?_, fun checkout hmem => (hcheckout checkout hmem).2,
    fun order hmem => (horder order hmem).2⟩
  rw [eq_of_reconcile_eq_ok hreconcile]
  exact ⟨h.promotions, h.vouchers, fun checkout hmem => (hcheckout checkout hmem).1,
    fun order hmem => (horder order hmem).1⟩

theorem Run.payable (h : Run start times scenario) (hpayable : start.Payable)
    (hcoherent : start.Coherent) (hheld : start.Held)
    (hregular : ∀ basket ∈ start.baskets, basket.Regular) : scenario.Payable := by
  induction h with
  | nil => exact hpayable
  | snoc hrun hreconcile ih =>
    exact (ih.reconcile (hrun.coherent hcoherent hheld hregular) (hrun.held hheld)
      (hrun.regular hheld hregular) hreconcile).1

/-- What each checkout and each order costs without any discount has 64 bits. -/
structure Fits (scenario : Scenario) : Prop where
  checkouts : ∀ checkout ∈ scenario.checkouts, ∀ channel,
    scenario.channels.get? checkout.2.channel = some channel →
      fitsMinor (checkout.2.fullMinor (checkout.2.deliveryPrice channel))
  orders : ∀ order ∈ scenario.orders, fitsMinor (order.2.fullMinor order.2.baseShippingPrice)

instance : Decidable scenario.Fits :=
  decidable_of_iff
    ((∀ checkout ∈ scenario.checkouts, ∀ channel ∈ scenario.channels.get? checkout.2.channel,
        fitsMinor (checkout.2.fullMinor (checkout.2.deliveryPrice channel))) ∧
      ∀ order ∈ scenario.orders, fitsMinor (order.2.fullMinor order.2.baseShippingPrice))
    ⟨fun ⟨hcheckouts, horders⟩ => ⟨hcheckouts, horders⟩, fun h => ⟨h.checkouts, h.orders⟩⟩

end Scenario

namespace Assembly

variable {a : Assembly} {times : List Instant} {now : Instant} {scenario : Scenario}

/-- No price that the shop lists is below zero, and no value of a promotion, of a voucher or of a
discount with which an order was placed. -/
structure Nonnegative (a : Assembly) : Prop where
  prices : ∀ price, a.Lists price → 0 ≤ price.minor
  shipping : ∀ channel ∈ a.scenario.channels.values, ∀ entry ∈ channel.shippingPrices,
    0 ≤ entry.2.minor
  promotions : a.scenario.promotions.Nonnegative
  vouchers : ∀ voucher ∈ a.scenario.vouchers.vouchers.values, voucher.Nonnegative
  discounts : ∀ order ∈ a.scenario.orders, ∀ record ∈ order.2.discounts, 0 ≤ record.value.mantissa

instance : Decidable a.Nonnegative :=
  decidable_of_iff
    ((∀ variant ∈ a.scenario.catalogue.variants.values, ∀ price ∈ variant.prices.map Prod.snd,
        0 ≤ price.minor) ∧
      (∀ channel ∈ a.scenario.channels.values, ∀ entry ∈ channel.shippingPrices,
        0 ≤ entry.2.minor) ∧
      (∀ rule ∈ a.scenario.promotions.rules.values, 0 ≤ rule.value.value.mantissa) ∧
      (∀ voucher ∈ a.scenario.vouchers.vouchers.values, ∀ entry ∈ voucher.listings,
        0 ≤ entry.2.value.mantissa) ∧
      ∀ order ∈ a.scenario.orders, ∀ record ∈ order.2.discounts, 0 ≤ record.value.mantissa)
    ⟨fun ⟨hprices, hshipping, hpromotions, hvouchers, hdiscounts⟩ =>
      ⟨fun price ⟨variant, hvariant, hprice⟩ => hprices variant hvariant price hprice, hshipping,
        hpromotions, hvouchers, hdiscounts⟩,
      fun h => ⟨fun variant hvariant price hprice => h.prices price ⟨variant, hvariant, hprice⟩,
        h.shipping, h.promotions, h.vouchers, h.discounts⟩⟩

theorem Nonnegative.shippingPrice {key : ChannelKey} {channel : Channel}
    {method : ShippingMethodKey} {price : Money} (h : a.Nonnegative)
    (hchannel : a.scenario.channels.get? key = some channel)
    (hprice : channel.shippingPrice method = some price) : 0 ≤ price.minor :=
  h.shipping channel (List.mem_map_of_mem (Registry.get?_eq_some.1 hchannel)) _
    (exists_mem_of_lookup hprice)

/-- Prices in the shop are those of the lines. -/
theorem Loaded.undiscountedUnitPrice_nonneg {basket : Basket} (h : a.Loaded)
    (hnonneg : a.Nonnegative) (hbasket : basket ∈ a.scenario.baskets) :
    ∀ line ∈ basket.lines, 0 ≤ line.undiscountedUnitPrice.minor :=
  fun line hline => hnonneg.prices _ ((h.fresh basket hbasket).lines line hline).2

/-- Prices and values in the shop are those of the orders. -/
theorem Loaded.nonnegative (h : a.Loaded) (hnonneg : a.Nonnegative) :
    ∀ order ∈ a.scenario.orders, order.2.Nonnegative := by
  intro order hmem
  refine ⟨h.undiscountedUnitPrice_nonneg hnonneg (Scenario.mem_baskets_of_mem_orders hmem), ?_,
    fun record hrecord => hnonneg.discounts order hmem record (List.mem_filter.1 hrecord).1⟩
  rcases (h.sound.2.orders order hmem).method with hfree | ⟨channel, method, hchannel, hprice⟩
  · rw [hfree]
    exact le_rfl
  · exact hnonneg.shippingPrice hchannel hprice

/-- Prices and values in the shop become those of what is sold. -/
theorem Loaded.payable (h : a.Loaded) (hnonneg : a.Nonnegative) (hfits : a.scenario.Fits) :
    a.scenario.Payable := by
  refine ⟨hnonneg.promotions, hnonneg.vouchers, fun checkout hmem => ⟨fun channel hchannel => ?_,
    hfits.checkouts checkout hmem, ?_⟩, fun order hmem =>
      ⟨h.nonnegative hnonneg order hmem, hfits.orders order hmem⟩⟩
  · refine ⟨h.undiscountedUnitPrice_nonneg hnonneg (Scenario.mem_baskets_of_mem_checkouts hmem), ?_⟩
    unfold Checkout.deliveryPrice
    dsimp only
    split
    · cases hprice : checkout.2.shippingMethod.bind channel.shippingPrice with
      | none => exact le_rfl
      | some price =>
        obtain ⟨method, -, hlisted⟩ := Option.bind_eq_some_iff.1 hprice
        exact hnonneg.shippingPrice hchannel hlisted
    · exact le_rfl
  · rw [h.invariant invariant_unshown _ (Scenario.mem_baskets_of_mem_checkouts hmem)]
    exact Money.isIn_zero _

/-- Where the shop lists no price and no value of a discount below zero and totals have 64 bits,
receipts state what is charged and add up whenever the scenario was reconciled. -/
theorem Loaded.receipted_of_run (h : a.Loaded) (hnonneg : a.Nonnegative) (hfits : a.scenario.Fits)
    (hrun : Scenario.Run a.scenario (times ++ [now]) scenario) : scenario.Receipted := by
  obtain ⟨earlier, hearlier, hreconcile⟩ := Scenario.run_concat_iff.1 hrun
  have hpayable := hearlier.payable (h.payable hnonneg hfits) h.sound.2 h.held h.regular
  exact (hpayable.reconcile (h.coherent_of_run hearlier) (hearlier.held h.held)
    (hearlier.regular h.held h.regular) hreconcile).2

/-- The bookshop with a quarter off the novel, and a voucher of another quarter in a checkout and in
an order. -/
def saleWithVoucher (voucherType : String) : ManifestKind → Except LoadError Document
  | .promotions => bookshop .promotions
  | kind => voucherShop voucherType kind

/-- The novel at 6.00 and shipping at 2.00 cost 6.50 with the voucher. -/
theorem receipted_saleWithVoucher : ∃ a scenario, ofSet (saleWithVoucher "entire_order") = .ok a ∧
    a.Nonnegative ∧ a.scenario.Fits ∧
    Scenario.Run a.scenario [⟨1710000000000000000⟩, ⟨1800000000000000000⟩] scenario ∧
    scenario.checkouts.map (fun checkout => (Receipt.ofCheckout "Checkout" checkout.2
      scenario.catalogue).map (·.total)) = [.ok ⟨650, .gbp⟩] ∧
    scenario.orders.map (fun order => (Receipt.ofOrder "Order" order.2 scenario.catalogue).map
      (·.total)) = [.ok ⟨650, .gbp⟩] ∧
    scenario.Receipted := by
  have hcomputed : (replay? (saleWithVoucher "entire_order")
      [⟨1710000000000000000⟩, ⟨1800000000000000000⟩]).map (fun (a, scenario) =>
        ((decide a.Nonnegative, decide a.scenario.Fits),
          scenario.checkouts.map (fun checkout => (Receipt.ofCheckout "Checkout" checkout.2
            scenario.catalogue).map (·.total)),
          scenario.orders.map (fun order => (Receipt.ofOrder "Order" order.2
            scenario.catalogue).map (·.total)))) =
      some ((true, true), [.ok ⟨650, .gbp⟩], [.ok ⟨650, .gbp⟩]) := by
    decide +kernel
  obtain ⟨⟨a, scenario⟩, hreplay, hshown⟩ := Option.map_eq_some_iff.1 hcomputed
  obtain ⟨hload, hrun⟩ := replay?_eq_some.1 hreplay
  simp only [Prod.mk.injEq, decide_eq_true_eq] at hshown
  obtain ⟨⟨hnonneg, hfits⟩, hcheckouts, horders⟩ := hshown
  have hruns : Scenario.Run a.scenario
      ([⟨1710000000000000000⟩] ++ [⟨1800000000000000000⟩]) scenario := hrun
  exact ⟨a, scenario, hload, hnonneg, hfits, hrun, hcheckouts, horders,
    Loaded.receipted_of_run (loaded_ofSet hload) hnonneg hfits hruns⟩

end Assembly

end Retail
