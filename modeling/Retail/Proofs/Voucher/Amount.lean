import Retail.Proofs.Voucher.Bounds

/-!
# What a voucher takes off a checkout

A voucher of the whole order is taken off the base subtotal, and one of shipping off the delivery
price. A voucher of single products is taken off each unit by itself, so that each is rounded by
itself, or off one of the cheapest units. Lines of no units do not count.

Units of one line cost the same, so it is enough to discount each line once and to count it as often
as it is bought, also where something fails on the way.

## Main definitions

* `unitPrices`: the price of each unit
* `Voucher.unitsDiscount`: what a voucher takes off single units
* `Checkout.TakesOff`: what a voucher takes off a checkout
* `Checkout.amountLimit`: the price that it takes off at most

## Main results

* `Voucher.productsDiscount_eq_unitsDiscount`: line by line or unit by unit
* `Checkout.takesOff_of_voucherAmount`, `Checkout.Priced.bounds_of_voucherAmount`: the amount and
  its bounds
* `Checkout.exact_voucherAmount`: both together
-/

namespace Retail

/-! ## Units -/

/-- The price of each unit, for products given as quantities and unit prices. -/
def unitPrices (units : List (Nat × Money)) : List Money :=
  units.flatMap fun unit => List.replicate unit.1 unit.2

theorem unitPrices_cons (unit : Nat × Money) (units : List (Nat × Money)) :
    unitPrices (unit :: units) = List.replicate unit.1 unit.2 ++ unitPrices units :=
  List.flatMap_cons

/-- Products of which none is bought have no units. -/
theorem unitPrices_filter (units : List (Nat × Money)) :
    unitPrices (units.filter (·.1 != 0)) = unitPrices units := by
  induction units with
  | nil => rfl
  | cons unit rest ih =>
    by_cases hzero : unit.1 = 0
    · rw [List.filter_cons_of_neg (by simpa using hzero), ih, unitPrices_cons, hzero]
      rfl
    · rw [List.filter_cons_of_pos (by simpa using hzero), unitPrices_cons, unitPrices_cons, ih]

namespace Voucher

variable {voucher : Voucher} {price : Money} {channel : ChannelKey} {currency : Currency}

/-- What the voucher takes off single units: off the first of the cheapest where it applies once per
order, otherwise off each. -/
def unitsDiscount (voucher : Voucher) (prices : List Money) (channel : ChannelKey)
    (currency : Currency) : Except VoucherError Money :=
  if voucher.oncePerOrder then
    match cheapest? prices with
    | some price => voucher.discountAmount price channel
    | none => .ok (.zero currency)
  else do
    let discounts ← prices.mapM (voucher.discountAmount · channel)
    (Money.total currency discounts).mapError .pricing

/-! ### The cheapest unit -/

/-- More units at a price do not change which price is the lowest. -/
theorem cheapest?_replicate_append (n : Nat) (price : Money) (rest : List Money) :
    cheapest? (List.replicate (n + 1) price ++ rest) = cheapest? (price :: rest) := by
  induction n with
  | zero => rfl
  | succ n ih =>
    rw [List.replicate_succ, List.cons_append, cheapest?, ih, cheapest?]
    cases cheapest? rest with
    | none => simp
    | some other =>
      by_cases hle : price.minorUnits ≤ other.minorUnits
      · simp [hle]
      · simp [hle]

theorem cheapest?_unitPrices (units : List (Nat × Money)) :
    cheapest? (unitPrices units) = cheapest? ((units.filter (·.1 != 0)).map Prod.snd) := by
  rw [← unitPrices_filter]
  have hpos : ∀ unit ∈ units.filter (·.1 != 0), unit.1 ≠ 0 :=
    fun unit hunit => (mem_bought.1 hunit).2
  generalize units.filter (·.1 != 0) = counted at hpos ⊢
  induction counted with
  | nil => rfl
  | cons unit rest ih =>
    rw [List.forall_mem_cons] at hpos
    obtain ⟨n, hn⟩ := Nat.exists_eq_succ_of_ne_zero hpos.1
    rw [unitPrices_cons, hn, cheapest?_replicate_append, List.map_cons, cheapest?, cheapest?,
      ih hpos.2]

/-! ### Each unit -/

/-- Adding one amount several times is adding a multiple of it. -/
theorem foldlM_add_replicate (n : Nat) (start amount : Money) :
    (List.replicate (n + 1) amount).foldlM Money.add start =
      start.add { amount with minor := amount.minor * (n + 1 : Nat) } := by
  induction n generalizing start with
  | zero =>
    rw [List.replicate_succ, List.replicate_zero, List.foldlM_cons]
    simp
  | succ n ih =>
    rw [List.replicate_succ, List.foldlM_cons]
    by_cases hcurrency : start.currency = amount.currency
    · have hadd : ∀ minor : Int, start.add ⟨minor, amount.currency⟩ =
          .ok ⟨start.minor + minor, start.currency⟩ :=
        fun minor => Money.add_eq_ok.2 ⟨hcurrency, rfl⟩
      have hfirst : start.add amount = .ok ⟨start.minor + amount.minor, start.currency⟩ :=
        hadd amount.minor
      rw [hfirst, hadd]
      refine (ih _).trans (Money.add_eq_ok.2 ⟨hcurrency, ?_⟩)
      rw [Money.mk.injEq]
      refine ⟨?_, rfl⟩
      push_cast
      ring
    · -- In another currency already the first one cannot be added.
      have hfails : ∀ minor : Int, start.add ⟨minor, amount.currency⟩ =
          .error (.currencyMismatch start.currency amount.currency) := by
        intro minor
        simp [Money.add, Money.sameCurrency, hcurrency, bind, Except.bind]
      have hfirst : start.add amount =
          .error (.currencyMismatch start.currency amount.currency) := hfails amount.minor
      rw [hfirst, hfails]
      rfl

theorem mapM_replicate_of_eq_ok {ε α β : Type} {f : α → Except ε β} {x : α} {y : β}
    (h : f x = .ok y) (n : Nat) : (List.replicate n x).mapM f = .ok (List.replicate n y) := by
  rw [mapM_eq_ok]
  induction n with
  | zero => exact .nil
  | succ n ih => exact .cons h ih

/-- Discounting each line once fails where discounting each unit does, and otherwise comes to the
same sum. -/
theorem mapM_unitPrices {ε : Type} (discount : Money → Except ε Money)
    {units : List (Nat × Money)} (hpos : ∀ unit ∈ units, unit.1 ≠ 0) :
    let counted := units.mapM fun (quantity, price) => do
      let off ← discount price
      return { off with minor := off.minor * quantity }
    (∃ e, counted = .error e ∧ (unitPrices units).mapM discount = .error e) ∨
      ∃ offs each, counted = .ok offs ∧ (unitPrices units).mapM discount = .ok each ∧
        ∀ start : Money, each.foldlM Money.add start = offs.foldlM Money.add start := by
  induction units with
  | nil => exact .inr ⟨[], [], rfl, rfl, fun _ => rfl⟩
  | cons unit rest ih =>
    rw [List.forall_mem_cons] at hpos
    obtain ⟨n, hn⟩ := Nat.exists_eq_succ_of_ne_zero hpos.1
    dsimp only at ih ⊢
    rw [List.mapM_cons, unitPrices_cons, hn]
    cases hoff : discount unit.2 with
    | error e =>
      refine .inl ⟨e, rfl, ?_⟩
      rw [List.replicate_succ, List.cons_append, List.mapM_cons, hoff]
      rfl
    | ok off =>
      rw [List.mapM_append, mapM_replicate_of_eq_ok hoff]
      rcases ih hpos.2 with ⟨e, hcounted, hunits⟩ | ⟨offs, each, hcounted, hunits, hsum⟩
      · rw [hcounted, hunits]
        exact .inl ⟨e, rfl, rfl⟩
      · rw [hcounted, hunits]
        refine .inr ⟨_, _, rfl, rfl, fun start => ?_⟩
        rw [List.foldlM_append, foldlM_add_replicate, List.foldlM_cons]
        exact congrArg (_ >>= ·) (funext hsum)

/-- A voucher of single products is taken off each unit by itself. -/
theorem productsDiscount_eq_unitsDiscount (voucher : Voucher) (units : List (Nat × Money))
    (channel : ChannelKey) (currency : Currency) :
    voucher.productsDiscount units channel currency =
      voucher.unitsDiscount (unitPrices units) channel currency := by
  unfold productsDiscount unitsDiscount
  dsimp only
  by_cases honce : voucher.oncePerOrder
  · rw [if_pos honce, if_pos honce]
    exact cheapest?_unitPrices units ▸ rfl
  · rw [if_neg honce, if_neg honce, ← unitPrices_filter]
    have hpos : ∀ unit ∈ units.filter (·.1 != 0), unit.1 ≠ 0 :=
      fun unit hunit => (mem_bought.1 hunit).2
    rcases mapM_unitPrices (voucher.discountAmount · channel) hpos with
      ⟨e, hcounted, hunits⟩ | ⟨offs, each, hcounted, hunits, hsum⟩
    · rw [hunits]
      exact congrArg (· >>= _) hcounted
    · rw [hunits]
      refine (congrArg (· >>= _) hcounted).trans ?_
      show (Money.total currency offs).mapError _ = (Money.total currency each).mapError _
      rw [Money.total, Money.total, hsum]

theorem discountAmount_of_listing {listing : VoucherListing} {off : Money}
    (h : voucher.listing? channel = some listing) :
    voucher.discountAmount price channel = .ok off ↔
      (DiscountValue.mk listing.value voucher.valueType).amountOff price = .ok off := by
  have hvalue : voucher.discountIn channel = .ok ⟨listing.value, voucher.valueType⟩ := by
    rw [discountIn, h]
  rw [discountAmount_eq_ok]
  constructor
  · rintro ⟨value, hfound, hoff⟩
    obtain rfl := Except.ok.inj (hvalue.symm.trans hfound)
    exact hoff
  · exact fun hoff => ⟨_, hvalue, hoff⟩

end Voucher

/-! ## Checkouts -/

namespace Checkout

variable {checkout : Checkout} {channel : Channel} {voucher : Voucher} {listing : VoucherListing}
  {value : DiscountValue} {amount : Money}

/-- What is in the checkout, as quantities and base prices. -/
def units (checkout : Checkout) : List (Nat × Money) :=
  checkout.lines.map fun line => (line.quantity, line.baseUnitPrice)

/-- The price that the voucher takes off at most: that of shipping, or of everything else. -/
def amountLimit (checkout : Checkout) (channel : Channel) (voucher : Voucher) : Money :=
  match voucher.voucherType with
  | .shipping => checkout.deliveryPrice channel
  | .entireOrder => checkout.baseSubtotal
  | .specificProduct => checkout.baseSubtotal

/-- The amount is what the value takes off one unit at the lowest price, and nothing where no unit
is bought. -/
def TakesOffCheapest (checkout : Checkout) (value : DiscountValue) (amount : Money) : Prop :=
  (∀ line ∈ checkout.lines, line.quantity = 0) ∧ amount = .zero checkout.currency ∨
    ∃ line ∈ checkout.lines, line.quantity ≠ 0 ∧
      (∀ other ∈ checkout.lines, other.quantity ≠ 0 →
        line.baseUnitPrice.minor ≤ other.baseUnitPrice.minor) ∧
      value.amountOff line.baseUnitPrice = .ok amount

/-- The amount is what the value takes off the price of a unit, for each unit that is bought. -/
def TakesOffEach (checkout : Checkout) (value : DiscountValue) (amount : Money) : Prop :=
  ∃ each : Money → Money,
    (∀ line ∈ checkout.lines, line.quantity ≠ 0 →
      value.amountOff line.baseUnitPrice = .ok (each line.baseUnitPrice)) ∧
    amount = ⟨(checkout.lines.map fun line =>
      (each line.baseUnitPrice).minor * (line.quantity : Int)).sum, checkout.currency⟩

/-- The amount is what a voucher with this value takes off the checkout. -/
def TakesOff (checkout : Checkout) (channel : Channel) (voucher : Voucher) (value : DiscountValue)
    (amount : Money) : Prop :=
  match voucher.voucherType with
  | .entireOrder => value.amountOff checkout.baseSubtotal = .ok amount
  | .shipping =>
    if checkout.isShippingRequired then value.amountOff (checkout.deliveryPrice channel) = .ok amount
    else amount = .zero checkout.currency
  | .specificProduct =>
    if voucher.oncePerOrder then checkout.TakesOffCheapest value amount
    else checkout.TakesOffEach value amount

/-- Prices are in the currency of the checkout and not below zero, and the subtotal is what the
lines cost. -/
structure Priced (channel : Channel) (checkout : Checkout) : Prop where
  currency_units : ∀ unit ∈ checkout.units, unit.2.currency = checkout.currency
  units_nonneg : ∀ unit ∈ checkout.units, 0 ≤ unit.2.minor
  currency_delivery : (checkout.deliveryPrice channel).currency = checkout.currency
  delivery_nonneg : 0 ≤ (checkout.deliveryPrice channel).minor
  baseSubtotal : checkout.baseSubtotal = ⟨Voucher.costMinor checkout.units, checkout.currency⟩

theorem mem_units {line : Line} (h : line ∈ checkout.lines) :
    (line.quantity, line.baseUnitPrice) ∈ checkout.units :=
  List.mem_map_of_mem h

theorem forall_mem_units {p : Nat × Money → Prop} :
    (∀ unit ∈ checkout.units, p unit) ↔
      ∀ line ∈ checkout.lines, p (line.quantity, line.baseUnitPrice) :=
  List.forall_mem_map

/-- A price of which some units are bought fits where all together do. -/
theorem minorUnits_eq_of_bought (hfits : fitsMinor (Voucher.costMinor checkout.units))
    (hnonneg : ∀ unit ∈ checkout.units, 0 ≤ unit.2.minor) {line : Line}
    (hline : line ∈ checkout.lines) (hbought : line.quantity ≠ 0) :
    line.baseUnitPrice.minorUnits = line.baseUnitPrice.minor := by
  apply Money.minorUnits_of_fits
  have hle := Voucher.le_costMinor hnonneg (mem_units hline) hbought
  have hprice : 0 ≤ line.baseUnitPrice.minor := hnonneg _ (mem_units hline)
  rw [fitsMinor_iff] at hfits ⊢
  exact ⟨by omega, hle.trans_lt hfits.2⟩

/-- A subtotal that was computed is what the lines cost. -/
theorem baseSubtotal_eq_costMinor (hfits : fitsMinor (Voucher.costMinor checkout.units))
    (hnonneg : ∀ unit ∈ checkout.units, 0 ≤ unit.2.minor)
    (h : checkout.subtotal = .ok checkout.baseSubtotal) :
    checkout.baseSubtotal = ⟨Voucher.costMinor checkout.units, checkout.currency⟩ := by
  obtain ⟨totals, htotals, hsum⟩ := bind_eq_ok.1 h
  rw [(Money.total_eq_ok.1 hsum).2, Voucher.costMinor, units, List.map_map, Money.mk.injEq]
  refine ⟨congrArg List.sum (map_eq_of_forall₂ (forall₂_imp_of_mem (mapM_eq_ok.1 htotals) ?_)
    fun _ _ => id).symm, rfl⟩
  intro line hline total _ htotal
  obtain ⟨-, rfl⟩ := Money.times_eq_ok.1 htotal
  show line.baseUnitPrice.minor * (line.quantity : Int) = line.baseUnitPrice.minorUnits * _
  by_cases hquantity : line.quantity = 0
  · rw [hquantity, Int.natCast_zero, Int.mul_zero, Int.mul_zero]
  · rw [minorUnits_eq_of_bought hfits hnonneg hline hquantity]

theorem voucherAmount_of_specificProduct (htype : voucher.voucherType = .specificProduct) :
    checkout.voucherAmount channel voucher =
      voucher.productsDiscount checkout.units checkout.channel checkout.currency := by
  rw [voucherAmount, htype]
  rfl

/-- What a voucher takes off, where all prices fit. -/
theorem takesOff_of_voucherAmount (hlisting : voucher.listing? checkout.channel = some listing)
    (hfits : fitsMinor (Voucher.costMinor checkout.units))
    (hnonneg : ∀ unit ∈ checkout.units, 0 ≤ unit.2.minor)
    (h : checkout.voucherAmount channel voucher = .ok amount) :
    checkout.TakesOff channel voucher ⟨listing.value, voucher.valueType⟩ amount := by
  unfold TakesOff
  cases htype : voucher.voucherType with
  | entireOrder =>
    refine (Voucher.discountAmount_of_listing hlisting).1 ?_
    apply discountAmount_of_voucherAmount _ h
    · rw [Voucher.base?, htype]
    · intro hshipping
      rw [htype] at hshipping
      contradiction
  | shipping =>
    dsimp only
    split
    · rename_i hrequired
      refine (Voucher.discountAmount_of_listing hlisting).1 ?_
      apply discountAmount_of_voucherAmount (fun _ => hrequired) h
      rw [Voucher.base?, htype]
    · rename_i hrequired
      simp only [voucherAmount, htype, deliveryPriceAfter, deliveryPrice, hrequired, Bool.false_and,
        Bool.false_eq_true, if_false, bind_eq_ok, mapError_eq_ok, Except.ok.injEq,
        Money.sub_eq_ok] at h
      obtain ⟨_, rfl, -, rfl⟩ := h
      rfl
  | specificProduct =>
    rw [voucherAmount_of_specificProduct htype] at h
    dsimp only
    split
    · rename_i honce
      rcases Voucher.exists_cheapest_of_productsDiscount honce h with
        ⟨hnone, hzero⟩ | ⟨unit, hunit, hbought, hlowest, hamount⟩
      · exact .inl ⟨forall_mem_units.1 hnone, hzero⟩
      · obtain ⟨line, hline, rfl⟩ := List.mem_map.1 hunit
        refine .inr ⟨line, hline, hbought, fun other hother hquantity => ?_,
          (Voucher.discountAmount_of_listing hlisting).1 hamount⟩
        have hle := hlowest _ (mem_units hother) hquantity
        rwa [minorUnits_eq_of_bought hfits hnonneg hline hbought,
          minorUnits_eq_of_bought hfits hnonneg hother hquantity] at hle
    · rename_i honce
      obtain ⟨each, heach, rfl⟩ := Voucher.exists_each_of_productsDiscount honce h
      refine ⟨each, fun line hline hbought => ?_, ?_⟩
      · have hamount := forall_mem_units.1 heach line hline hbought
        exact (Voucher.discountAmount_of_listing hlisting).1 hamount
      · rw [units, List.map_map]
        rfl

/-- What a voucher takes off is neither below zero nor above the price that it is for. -/
theorem Priced.bounds_of_voucherAmount (h : checkout.Priced channel)
    (hvalue : voucher.NonnegativeIn checkout.channel)
    (hamount : checkout.voucherAmount channel voucher = .ok amount) :
    amount.currency = checkout.currency ∧ 0 ≤ amount.minor ∧
      amount.minor ≤ (checkout.amountLimit channel voucher).minor := by
  have hcost : checkout.baseSubtotal.minor = Voucher.costMinor checkout.units := by
    rw [h.baseSubtotal]
  unfold amountLimit
  cases htype : voucher.voucherType with
  | entireOrder =>
    rw [voucherAmount, htype] at hamount
    have hsubtotal : 0 ≤ checkout.baseSubtotal.minor :=
      hcost ▸ Voucher.costMinor_nonneg h.units_nonneg
    refine ⟨(Voucher.currency_discountAmount hamount).trans ?_,
      hvalue.discountAmount_bounds hsubtotal hamount⟩
    rw [h.baseSubtotal]
  | shipping =>
    rw [voucherAmount, htype] at hamount
    obtain ⟨left, hleft, hamount⟩ := bind_eq_ok.1 hamount
    obtain ⟨-, rfl⟩ := Money.sub_eq_ok.1 (mapError_eq_ok.1 hamount)
    refine ⟨h.currency_delivery, ?_⟩
    unfold deliveryPriceAfter at hleft
    dsimp only at hleft ⊢
    split at hleft
    · obtain ⟨off, hoff, hleft⟩ := bind_eq_ok.1 hleft
      obtain ⟨-, rfl⟩ := Money.sub_eq_ok.1 (mapError_eq_ok.1 hleft)
      obtain ⟨hoff, hle⟩ := hvalue.discountAmount_bounds h.delivery_nonneg hoff
      dsimp only
      omega
    · obtain rfl := Except.ok.inj hleft
      have hdelivery := h.delivery_nonneg
      omega
  | specificProduct =>
    rw [voucherAmount_of_specificProduct htype] at hamount
    dsimp only
    rw [hcost]
    exact hvalue.productsDiscount_bounds h.currency_units h.units_nonneg hamount

/-- What a voucher takes off a checkout, and its bounds. Single products are discounted unit by
unit. -/
theorem exact_voucherAmount (hlisting : voucher.listing? checkout.channel = some listing)
    (hvalue : 0 ≤ listing.value.mantissa)
    (hlines : ∀ line ∈ checkout.lines,
      line.baseUnitPrice.currency = checkout.currency ∧ 0 ≤ line.baseUnitPrice.minor)
    (hshipping : (checkout.deliveryPrice channel).currency = checkout.currency ∧
      0 ≤ (checkout.deliveryPrice channel).minor)
    (hsubtotal : checkout.subtotal = .ok checkout.baseSubtotal)
    (hfits : fitsMinor (Voucher.costMinor checkout.units))
    (h : checkout.voucherAmount channel voucher = .ok amount) :
    checkout.TakesOff channel voucher ⟨listing.value, voucher.valueType⟩ amount ∧
      (voucher.voucherType = .specificProduct →
        voucher.unitsDiscount (unitPrices checkout.units) checkout.channel checkout.currency =
          .ok amount) ∧
      amount.currency = checkout.currency ∧ 0 ≤ amount.minor ∧
      amount.minor ≤ (checkout.amountLimit channel voucher).minor := by
  have hnonneg : ∀ unit ∈ checkout.units, 0 ≤ unit.2.minor :=
    forall_mem_units.2 fun line hline => (hlines line hline).2
  have hpriced : checkout.Priced channel :=
    ⟨forall_mem_units.2 fun line hline => (hlines line hline).1, hnonneg, hshipping.1, hshipping.2,
      baseSubtotal_eq_costMinor hfits hnonneg hsubtotal⟩
  have hlisted : voucher.NonnegativeIn checkout.channel := by
    intro found hfound
    obtain rfl : listing = found := Option.some.inj (hlisting.symm.trans hfound)
    exact hvalue
  refine ⟨takesOff_of_voucherAmount hlisting hfits hnonneg h, fun htype => ?_,
    hpriced.bounds_of_voucherAmount hlisted h⟩
  rw [voucherAmount_of_specificProduct htype, Voucher.productsDiscount_eq_unitsDiscount] at h
  exact h

/-- A voucher for a hundredth of the price of single products. -/
def hundredth : Voucher where
  name := none
  voucherType := .specificProduct
  valueType := .percentage
  usageLimit := none
  singleUse := false
  oncePerCustomer := false
  oncePerOrder := false
  onlyForStaff := false
  minItems := none
  start := ⟨0⟩
  finish := none
  listings := [(⟨1⟩, ⟨.one, none⟩)]

/-- Three units and two units of different prices. The cheapest product is not bought. -/
def crate : Checkout :=
  { Checkout.start ⟨1⟩ .gbp with
    lines := [{ unitLine ⟨3330, .gbp⟩ with quantity := 3 },
      { unitLine ⟨1040, .gbp⟩ with quantity := 2 }, { unitLine ⟨1, .gbp⟩ with quantity := 0 }]
    baseSubtotal := ⟨12070, .gbp⟩ }

/-- The units lose 33 and 10 pence each, which is less than a hundredth of what they cost together. -/
theorem exact_voucherAmount_crate :
    crate.voucherAmount ⟨.gbp, []⟩ hundredth = .ok ⟨119, .gbp⟩ ∧
      hundredth.unitsDiscount (unitPrices crate.units) ⟨1⟩ .gbp = .ok ⟨119, .gbp⟩ ∧
      (119 : Int) ≤ crate.baseSubtotal.minor := by
  have hamount : crate.voucherAmount ⟨.gbp, []⟩ hundredth = .ok ⟨119, .gbp⟩ := by decide +kernel
  have hlisted : hundredth.listing? crate.channel = some ⟨.one, none⟩ := rfl
  obtain ⟨-, hunits, -, -, hle⟩ := exact_voucherAmount hlisted (by decide) (by decide) (by decide)
    rfl (by decide) hamount
  exact ⟨hamount, hunits rfl, hle⟩

end Checkout

end Retail
