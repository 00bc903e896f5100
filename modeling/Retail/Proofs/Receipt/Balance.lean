import Retail.Proofs.Coherent.Sales
import Retail.Proofs.Promotion.Cheapest
import Retail.Receipt.Basic

/-!
# What receipts add up to

Lines that were given their catalogue prices cost their full price less what catalogue promotions
took off them. A receipt that takes its listed discounts off the base total therefore states as
savings what catalogue promotions and the listed discounts took off, and never more than everything
costs without them.

## Main definitions

* `Line.MarkedDown`, `Line.Catalogued`: a line at its full price or below it, and one that is
  charged its catalogue price
* `Basket.Valued`: base prices that are those of the lines
* `Receipt.Balanced`: a receipt that adds up

## Main results

* `Basket.Reconciled.valued`: baskets that were reconciled
* `Basket.Valued.balanced`: receipts that take the listed discounts off the base total
-/

namespace Retail

/-! ## Lines -/

namespace Line

variable {line line' : Line} {currency : Currency} {book : Promotions} {channel : ChannelKey}
  {now : Instant} {u : Unit}

/-- What the line costs after catalogue promotions, in minor units. -/
def catalogueMinor (line : Line) : Int := line.discountedUnitPrice.minor * line.quantity

/-- What catalogue promotions take off the line, in minor units. -/
def reductionMinor (line : Line) : Int :=
  (line.undiscountedUnitPrice.minor - line.discountedUnitPrice.minor) * line.quantity

/-- The line is sold at its full price or below it. -/
structure MarkedDown (currency : Currency) (line : Line) : Prop extends line.Sold currency where
  currency_eq : line.discountedUnitPrice.currency = currency
  nonneg : 0 ≤ line.discountedUnitPrice.minor
  le : line.discountedUnitPrice.minor ≤ line.undiscountedUnitPrice.minor

theorem MarkedDown.sameButRecords (h : line.MarkedDown currency)
    (hsame : line.SameButRecords line') : line'.MarkedDown currency := by
  rw [hsame]
  exact ⟨⟨h.price, h.total⟩, h.currency_eq, h.nonneg, h.le⟩

theorem MarkedDown.recharged (h : line.MarkedDown currency) (hcharged : line.Recharged line') :
    line'.MarkedDown currency := by
  rw [hcharged]
  exact ⟨⟨h.price, h.total⟩, h.currency_eq, h.nonneg, h.le⟩

theorem MarkedDown.fits_discountedUnitPrice (h : line.MarkedDown currency) :
    fitsMinor line.discountedUnitPrice.minor := by
  have hfits := h.price.fits
  have hnonneg := h.nonneg
  have hle := h.le
  rw [fitsMinor_iff] at hfits ⊢
  omega

/-- The full total is what the line costs after catalogue promotions, and what they take off. -/
theorem MarkedDown.undiscountedTotalPrice (h : line.MarkedDown currency) :
    line.undiscountedTotalPrice = ⟨line.catalogueMinor + line.reductionMinor, currency⟩ ∧
      fitsMinor line.undiscountedTotalPrice.minor := by
  obtain ⟨hfits, htotal⟩ := Money.times_eq_ok.1 h.total
  rw [Money.minorUnits_of_fits h.price.fits] at hfits htotal
  rw [htotal, h.price.currency_eq]
  refine ⟨?_, hfits⟩
  rw [catalogueMinor, reductionMinor, ← Int.add_mul]
  congr 2
  omega

theorem MarkedDown.catalogueMinor_nonneg (h : line.MarkedDown currency) :
    0 ≤ line.catalogueMinor :=
  Int.mul_nonneg h.nonneg (Int.natCast_nonneg _)

theorem MarkedDown.reductionMinor_nonneg (h : line.MarkedDown currency) :
    0 ≤ line.reductionMinor :=
  Int.mul_nonneg (Int.sub_nonneg.2 h.le) (Int.natCast_nonneg _)

theorem MarkedDown.fits_catalogueMinor (h : line.MarkedDown currency) :
    fitsMinor line.catalogueMinor := by
  obtain ⟨htotal, hfits⟩ := h.undiscountedTotalPrice
  have hcatalogue := h.catalogueMinor_nonneg
  have hreduction := h.reductionMinor_nonneg
  rw [htotal, fitsMinor_iff] at hfits
  rw [fitsMinor_iff]
  simp only at hfits
  omega

theorem MarkedDown.times_discountedUnitPrice (h : line.MarkedDown currency) :
    line.discountedUnitPrice.times line.quantity = .ok ⟨line.catalogueMinor, currency⟩ := by
  rw [Money.times_eq_ok, Money.minorUnits_of_fits h.fits_discountedUnitPrice, h.currency_eq]
  exact ⟨h.fits_catalogueMinor, rfl⟩

theorem MarkedDown.catalogueDiscountAmount (h : line.MarkedDown currency) :
    line.catalogueDiscountAmount = .ok ⟨line.reductionMinor, currency⟩ := by
  have hcurrency := h.price.currency_eq.trans h.currency_eq.symm
  simp only [Line.catalogueDiscountAmount, bind_eq_ok, Money.sub_eq_ok, Money.times_eq_ok]
  refine ⟨_, ⟨hcurrency, rfl⟩, ?_⟩
  have hfits : fitsMinor
      (line.undiscountedUnitPrice.minor - line.discountedUnitPrice.minor) := by
    have hbound := h.price.fits
    have hnonneg := h.nonneg
    have hle := h.le
    rw [fitsMinor_iff] at hbound ⊢
    omega
  rw [Money.minorUnits_of_fits hfits, h.price.currency_eq]
  refine ⟨?_, rfl⟩
  obtain ⟨htotal, hbound⟩ := h.undiscountedTotalPrice
  have hcatalogue := h.catalogueMinor_nonneg
  have hreduction := h.reductionMinor_nonneg
  rw [htotal, fitsMinor_iff] at hbound
  rw [fitsMinor_iff]
  simp only [catalogueMinor, reductionMinor] at *
  omega

/-- The line is charged its catalogue price. -/
structure Catalogued (currency : Currency) (line : Line) : Prop
    extends line.MarkedDown currency where
  base : line.baseUnitPrice = line.discountedUnitPrice
  totalPrice : line.totalPrice = ⟨line.catalogueMinor, currency⟩

theorem Catalogued.sameButRecords (h : line.Catalogued currency)
    (hsame : line.SameButRecords line') : line'.Catalogued currency := by
  refine ⟨h.toMarkedDown.sameButRecords hsame, ?_, ?_⟩
  · rw [hsame]
    exact h.base
  · rw [hsame]
    exact h.totalPrice

/-- A line that is given its catalogue price. -/
theorem catalogued_setCataloguePrice (hbook : book.Nonnegative) (hsold : line.Sold currency)
    (hprice : 0 ≤ line.undiscountedUnitPrice.minor)
    (h : (setCataloguePrice book channel now).runOn line = (.ok u, line')) :
    line'.Catalogued currency := by
  have hcheapest := cheapest_setCataloguePrice hbook hprice hsold.price.fits h
  obtain ⟨price, rules, totalPrice, -, hcurrency, htotal, rfl⟩ := setCataloguePrice_eq_ok.1 h
  have hmarked : (line.pricedAt price.floorAtZero rules totalPrice).MarkedDown currency := by
    refine ⟨⟨hsold.price, hsold.total⟩, ?_, hcheapest.nonneg, hcheapest.le⟩
    exact (Money.currency_floorAtZero _).trans (hcurrency.symm.trans hsold.price.currency_eq)
  exact ⟨hmarked, rfl, Except.ok.inj (htotal.symm.trans hmarked.times_discountedUnitPrice)⟩

end Line

section Sums

variable {lines : List Line} {currency : Currency}

theorem total_undiscounted (h : ∀ line ∈ lines, line.MarkedDown currency) :
    Money.total currency (lines.map (·.undiscountedTotalPrice)) =
      .ok ⟨(lines.map Line.catalogueMinor).sum + (lines.map Line.reductionMinor).sum,
        currency⟩ := by
  rw [Money.total_eq_ok, List.map_map, ← List.sum_map_add]
  have hprices : ∀ line ∈ lines, line.undiscountedTotalPrice =
      ⟨line.catalogueMinor + line.reductionMinor, currency⟩ :=
    fun line hline => (h line hline).undiscountedTotalPrice.1
  refine ⟨List.forall_mem_map.2 fun line hline => by rw [hprices line hline], ?_⟩
  congr 2
  refine List.map_congr_left fun line hline => ?_
  rw [Function.comp_apply, hprices line hline]

theorem total_reductions (h : ∀ line ∈ lines, line.MarkedDown currency) :
    ∃ amounts, lines.mapM Line.catalogueDiscountAmount = .ok amounts ∧
      Money.total currency amounts = .ok ⟨(lines.map Line.reductionMinor).sum, currency⟩ := by
  refine ⟨lines.map fun line => ⟨line.reductionMinor, currency⟩, ?_, ?_⟩
  · rw [mapM_eq_ok, List.forall₂_map_right_iff, List.forall₂_same]
    exact fun line hline => (h line hline).catalogueDiscountAmount
  · rw [Money.total_eq_ok, List.map_map]
    exact ⟨List.forall_mem_map.2 fun _ _ => rfl, rfl⟩

end Sums

/-! ## Baskets -/

namespace Basket

variable {basket basket' : Basket} {shipping : Money} {book : Promotions} {now : Instant}

/-- The base prices are those of the lines after catalogue promotions, and of shipping. -/
structure Valued (shipping : Money) (basket : Basket) : Prop where
  lines : ∀ line ∈ basket.lines, line.MarkedDown basket.currency
  baseSubtotal : basket.baseSubtotal =
    ⟨(basket.lines.map Line.catalogueMinor).sum, basket.currency⟩
  baseTotal : basket.baseSubtotal.add shipping = .ok basket.baseTotal

/-- What everything costs without any discount, in minor units. -/
def fullMinor (shipping : Money) (basket : Basket) : Int :=
  (basket.lines.map (·.undiscountedTotalPrice.minor)).sum + shipping.minor

theorem SameSale.fullMinor (h : basket.SameSale basket') :
    basket'.fullMinor shipping = basket.fullMinor shipping := by
  have hlines : basket.lines.map (·.undiscountedTotalPrice.minor) =
      basket'.lines.map (·.undiscountedTotalPrice.minor) :=
    map_eq_of_forall₂ h.lines fun line line' hgoods => by rw [hgoods.undiscountedTotalPrice]
  rw [Basket.fullMinor, Basket.fullMinor, hlines]

theorem Settled.valued (h : basket.Settled shipping book now basket')
    (hlines : ∀ line ∈ basket.lines, line.Catalogued basket.currency) :
    basket'.Valued shipping ∧ ∀ line ∈ basket'.lines, line.Catalogued basket'.currency := by
  have hcurrency : basket'.currency = basket.currency := by rw [h.eq]
  have hprices : ∀ line ∈ basket'.lines, line.Catalogued basket'.currency := by
    intro line' hline'
    obtain ⟨line, hline, hsynced⟩ := exists_left_of_forall₂ h.lines hline'
    exact hcurrency ▸ (hlines line hline).sameButRecords hsynced.same
  obtain ⟨hsubtotal, htotal⟩ := h.basePrices
  refine ⟨⟨fun line hline => (hprices line hline).toMarkedDown, ?_, htotal⟩, hprices⟩
  obtain ⟨totals, htotals, hsum⟩ := bind_eq_ok.1 hsubtotal
  have hbase : basket'.lines.mapM Line.baseTotal =
      .ok (basket'.lines.map fun line => ⟨line.catalogueMinor, basket'.currency⟩) := by
    rw [mapM_eq_ok, List.forall₂_map_right_iff, List.forall₂_same]
    intro line hline
    rw [Line.baseTotal, (hprices line hline).base]
    exact (hprices line hline).times_discountedUnitPrice
  obtain rfl := Except.ok.inj (hbase.symm.trans htotals)
  rw [(Money.total_eq_ok.1 hsum).2, List.map_map]
  rfl

theorem forall_catalogued {lines lines' : List Line} {channel : ChannelKey} {currency : Currency}
    (hbook : book.Nonnegative) (hsold : ∀ line ∈ lines, line.Sold currency)
    (hprices : ∀ line ∈ lines, 0 ≤ line.undiscountedUnitPrice.minor)
    (h : (cataloguePrices book channel now).runOn lines = (.ok (), lines')) :
    ∀ line ∈ lines', line.Catalogued currency := by
  intro line' hline'
  obtain ⟨line, hline, hpriced⟩ := exists_left_of_forall₂ (cataloguePrices_eq_ok.1 h) hline'
  exact Line.catalogued_setCataloguePrice hbook (hsold line hline) (hprices line hline) hpriced

/-- A basket that was reconciled has the base prices of its lines. -/
theorem Reconciled.valued (h : basket.Reconciled shipping book now basket')
    (hbook : book.Nonnegative) (hsold : ∀ line ∈ basket.lines, line.Sold basket.currency)
    (hprices : ∀ line ∈ basket.lines, 0 ≤ line.undiscountedUnitPrice.minor) :
    basket'.Valued shipping := by
  obtain ⟨lines, settled, hlines, hsettled, hcharged, -, heq⟩ := h
  obtain ⟨⟨hdown, hsubtotal, htotal⟩, -⟩ :=
    hsettled.valued (forall_catalogued hbook hsold hprices hlines)
  have hsums : basket'.lines.map Line.catalogueMinor = settled.lines.map Line.catalogueMinor :=
    (map_eq_of_forall₂ hcharged fun _ _ hline => by rw [hline]; rfl).symm
  have hsame : basket'.currency = settled.currency ∧ basket'.baseSubtotal = settled.baseSubtotal ∧
      basket'.baseTotal = settled.baseTotal := by
    rw [heq]
    exact ⟨rfl, rfl, rfl⟩
  refine ⟨fun line' hline' => ?_, ?_, ?_⟩
  · obtain ⟨line, hline, hrecharged⟩ := exists_left_of_forall₂ hcharged hline'
    exact hsame.1 ▸ (hdown line hline).recharged hrecharged
  · rw [hsums, hsame.1, hsame.2.1]
    exact hsubtotal
  · rw [hsame.2.1, hsame.2.2]
    exact htotal

/-- Base prices are between nothing and what everything costs without any discount. -/
theorem Valued.bounds (h : basket.Valued shipping) :
    0 ≤ basket.baseSubtotal.minor ∧
      basket.baseTotal.minor = basket.baseSubtotal.minor + shipping.minor ∧
      basket.baseTotal.minor ≤ basket.fullMinor shipping := by
  obtain ⟨hlines, hsubtotal, htotal⟩ := h
  have hfull : basket.fullMinor shipping = (basket.lines.map Line.catalogueMinor).sum +
      (basket.lines.map Line.reductionMinor).sum + shipping.minor := by
    have hsum := (Money.total_eq_ok.1 (total_undiscounted hlines)).2
    rw [List.map_map] at hsum
    rw [fullMinor]
    congr 1
    exact (congrArg Money.minor hsum).symm
  have hcatalogue : 0 ≤ (basket.lines.map Line.catalogueMinor).sum :=
    sum_nonneg_of_forall fun line hline => (hlines line hline).catalogueMinor_nonneg
  have hreduction : 0 ≤ (basket.lines.map Line.reductionMinor).sum :=
    sum_nonneg_of_forall fun line hline => (hlines line hline).reductionMinor_nonneg
  have hbase := congrArg Money.minor (Money.add_eq_ok.1 htotal).2
  have hlinesTotal := congrArg Money.minor hsubtotal
  simp only at hbase hlinesTotal
  omega

end Basket

/-! ## Receipts -/

/-- The listed discounts come to `off`, and that is what the base total loses. Catalogue promotions
took `reduction` off the lines. Both together are the savings, which are neither below zero nor
above what everything costs without them. -/
structure Receipt.Balance (basket : Basket) (receipt : Receipt)
    (off reduction savings full : Money) : Prop where
  listed : Money.total basket.currency (receipt.discounts.map (·.amount)) = .ok off
  total : basket.baseTotal.sub off = .ok receipt.total
  reductions : ∃ amounts, basket.lines.mapM Line.catalogueDiscountAmount = .ok amounts ∧
    Money.total basket.currency amounts = .ok reduction
  savings_eq : receipt.savings = .ok savings
  add_eq : reduction.add off = .ok savings
  full_eq : receipt.fullTotal = .ok full
  nonneg : 0 ≤ savings.minor
  le : savings.minor ≤ full.minor

/-- The receipt adds up. -/
def Receipt.Balanced (basket : Basket) (receipt : Receipt) : Prop :=
  ∃ off reduction savings full, receipt.Balance basket off reduction savings full

/-- A receipt whose listed discounts are what the base total loses, and are not more than it. -/
theorem Basket.Valued.balanced {basket : Basket} {receipt : Receipt} {off : Money}
    (h : basket.Valued receipt.shipping)
    (hlisted : Money.total basket.currency (receipt.discounts.map (·.amount)) = .ok off)
    (htotal : basket.baseTotal.sub off = .ok receipt.total)
    (hoff : 0 ≤ off.minor) (hoff' : off.minor ≤ basket.baseTotal.minor)
    (hsubtotal : Money.total basket.currency (basket.lines.map (·.undiscountedTotalPrice)) =
      .ok receipt.subtotal) : receipt.Balanced basket := by
  obtain ⟨amounts, hamounts, hreduced⟩ := total_reductions h.lines
  have hreduction : 0 ≤ (basket.lines.map Line.reductionMinor).sum :=
    sum_nonneg_of_forall fun line hline => (h.lines line hline).reductionMinor_nonneg
  have hcatalogue : 0 ≤ (basket.lines.map Line.catalogueMinor).sum :=
    sum_nonneg_of_forall fun line hline => (h.lines line hline).catalogueMinor_nonneg
  have hlistedIn : off.currency = basket.currency := by rw [(Money.total_eq_ok.1 hlisted).2]
  have hpaid := Except.ok.inj (hsubtotal.symm.trans (total_undiscounted h.lines))
  obtain ⟨hsame, hbase⟩ := Money.add_eq_ok.1 h.baseTotal
  obtain ⟨-, hreceived⟩ := Money.sub_eq_ok.1 htotal
  simp only [h.baseSubtotal] at hsame hbase
  have hfull : receipt.fullTotal =
      .ok ⟨receipt.subtotal.minor + receipt.shipping.minor, basket.currency⟩ := by
    rw [Receipt.fullTotal, Money.add_eq_ok, hpaid]
    exact ⟨hsame, rfl⟩
  refine ⟨off, _, ⟨(basket.lines.map Line.reductionMinor).sum + off.minor, basket.currency⟩, _,
    hlisted, htotal, ⟨amounts, hamounts, hreduced⟩, ?_, ?_, hfull, ?_, ?_⟩
  · rw [Receipt.savings, bind_eq_ok]
    refine ⟨_, hfull, Money.sub_eq_ok.2 ⟨?_, ?_⟩⟩
    · rw [hreceived, hbase]
    · rw [hreceived, hbase, hpaid]
      simp only [Money.mk.injEq, and_true]
      omega
  · exact Money.add_eq_ok.2 ⟨hlistedIn.symm, rfl⟩
  · simp only
    omega
  · simp only [hbase] at hoff'
    simp only [hpaid]
    omega

end Retail
