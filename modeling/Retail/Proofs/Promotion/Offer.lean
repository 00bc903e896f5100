import Retail.Proofs.Line.Basic
import Retail.Proofs.Promotion.Choice

/-!
# Catalogue prices

Which price a line is given, and by which rule, depends on what is sold only. Whatever prices and
rules the line had before are replaced, and its records are left alone.

## Main definitions

* `Line.SameGoods`: lines that sell the same
* `Line.SameWares`: lines of one variant, at one quantity and one full price
* `Line.catalogueOffer`: the price that a line is offered, and the rule behind it
* `Line.pricedAt`: a line at a catalogue price
* `catalogueRules`: a book of catalogue rules

## Main results

* `Line.setCataloguePrice_eq_ok`: the line that was given its catalogue price
* `Line.setCataloguePrice_congr`, `cataloguePrices_congr`: lines that sell the same
* `Line.catalogueOffer_cases`: the full price, or what one rule leaves of it
* `sameRecords_cataloguePrices`: lines keep their keys and records
-/

namespace Retail

variable {book : Promotions} {channel : ChannelKey} {now : Instant} {u : Unit}

namespace Line

variable {line line' other : Line} {price totalPrice : Money} {rules : List LineRule}

/-- The lines sell the same: they differ at most in what promotions made of them. -/
structure SameGoods (line other : Line) : Prop where
  key : other.key = line.key
  variant : other.variant = line.variant
  quantity : other.quantity = line.quantity
  undiscountedUnitPrice : other.undiscountedUnitPrice = line.undiscountedUnitPrice
  undiscountedTotalPrice : other.undiscountedTotalPrice = line.undiscountedTotalPrice

theorem SameGoods.refl (line : Line) : line.SameGoods line := ⟨rfl, rfl, rfl, rfl, rfl⟩

theorem SameGoods.trans {third : Line} (h : line.SameGoods other) (h' : other.SameGoods third) :
    line.SameGoods third :=
  ⟨h'.key.trans h.key, h'.variant.trans h.variant, h'.quantity.trans h.quantity,
    h'.undiscountedUnitPrice.trans h.undiscountedUnitPrice,
    h'.undiscountedTotalPrice.trans h.undiscountedTotalPrice⟩

/-- The lines are of one variant, at one quantity and one full price. -/
structure SameWares (line other : Line) : Prop where
  variant : other.variant = line.variant
  quantity : other.quantity = line.quantity
  undiscountedUnitPrice : other.undiscountedUnitPrice = line.undiscountedUnitPrice

theorem SameGoods.sameWares (h : line.SameGoods other) : line.SameWares other :=
  ⟨h.variant, h.quantity, h.undiscountedUnitPrice⟩

theorem SameWares.symm (h : line.SameWares other) : other.SameWares line :=
  ⟨h.variant.symm, h.quantity.symm, h.undiscountedUnitPrice.symm⟩

theorem SameWares.trans {third : Line} (h : line.SameWares other) (h' : other.SameWares third) :
    line.SameWares third :=
  ⟨h'.variant.trans h.variant, h'.quantity.trans h.quantity,
    h'.undiscountedUnitPrice.trans h.undiscountedUnitPrice⟩

/-- What the best offer leaves of the full price, with its rule; the full price without one. -/
def catalogueOffer (book : Promotions) (channel : ChannelKey) (now : Instant) (line : Line) :
    Except PricingError (Money × List LineRule) := do
  let price := line.undiscountedUnitPrice
  match ← bestOffer price (book.activeRulesOf line.variant now) channel with
  | some (rule, saving) => return (← price.sub saving, [⟨rule, some saving⟩])
  | none => return (price, [])

/-- The line at a price of a unit, with the rules behind it. -/
def pricedAt (price : Money) (rules : List LineRule) (totalPrice : Money) (line : Line) : Line :=
  { line with
    unitDiscount := ⟨line.undiscountedUnitPrice.minor - price.minor,
      line.undiscountedUnitPrice.currency⟩
    discountedUnitPrice := price
    baseUnitPrice := price
    unitPrice := price
    totalPrice
    rules }

theorem SameWares.catalogueOffer (h : line.SameWares other) :
    other.catalogueOffer book channel now = line.catalogueOffer book channel now := by
  rw [Line.catalogueOffer, Line.catalogueOffer, h.undiscountedUnitPrice, h.variant]

theorem SameGoods.pricedAt (h : line.SameGoods other) :
    other.pricedAt price rules totalPrice =
      { line.pricedAt price rules totalPrice with discounts := other.discounts } := by
  obtain ⟨hkey, hvariant, hquantity, hunit, htotal⟩ := h
  simp only [Line.pricedAt, ← hkey, ← hvariant, ← hquantity, ← hunit, ← htotal]

/-- A line is given the price that it is offered, floored at zero. -/
theorem setCataloguePrice_eq_ok :
    (setCataloguePrice book channel now).runOn line = (.ok u, line') ↔
      ∃ price rules totalPrice, line.catalogueOffer book channel now = .ok (price, rules) ∧
        line.undiscountedUnitPrice.currency = price.currency ∧
        price.floorAtZero.times line.quantity = .ok totalPrice ∧
        line' = line.pricedAt price.floorAtZero rules totalPrice := by
  have hset : ∀ (price : Money) (rules : List LineRule),
      (do setDiscountedUnitPrice price; setRules rules : Step Line PricingError Unit).runOn line =
          (.ok u, line') ↔
        line.undiscountedUnitPrice.currency = price.currency ∧ ∃ totalPrice,
          price.floorAtZero.times line.quantity = .ok totalPrice ∧
          line' = line.pricedAt price.floorAtZero rules totalPrice := by
    intro price rules
    simp only [Step.runOn_bind_eq_ok, setDiscountedUnitPrice_eq_ok, setRules, Step.runOn_modify,
      Prod.mk.injEq, true_and]
    constructor
    · rintro ⟨_, _, ⟨hcurrency, totalPrice, htotal, rfl⟩, rfl⟩
      exact ⟨hcurrency, totalPrice, htotal, rfl⟩
    · rintro ⟨hcurrency, totalPrice, htotal, rfl⟩
      exact ⟨(), _, ⟨hcurrency, totalPrice, htotal, rfl⟩, rfl⟩
  simp only [setCataloguePrice, catalogueOffer, Step.runOn_get_bind, Step.runOn_answer_bind_eq_ok,
    bind_eq_ok]
  constructor
  · rintro ⟨best, hbest, h⟩
    rcases best with _ | ⟨rule, saving⟩
    · obtain ⟨hcurrency, totalPrice, htotal, rfl⟩ := (hset _ _).1 h
      exact ⟨_, _, totalPrice, ⟨none, hbest, rfl⟩, hcurrency, htotal, rfl⟩
    · obtain ⟨price, hprice, h⟩ := Step.runOn_answer_bind_eq_ok.1 h
      obtain ⟨hcurrency, totalPrice, htotal, rfl⟩ := (hset _ _).1 h
      refine ⟨price, _, totalPrice, ⟨some (rule, saving), hbest, ?_⟩, hcurrency, htotal, rfl⟩
      simp only [hprice, bind, Except.bind]
      rfl
  · rintro ⟨price, rules, totalPrice, ⟨best, hbest, hoffer⟩, hcurrency, htotal, rfl⟩
    refine ⟨best, hbest, ?_⟩
    rcases best with _ | ⟨rule, saving⟩
    · obtain ⟨rfl, rfl⟩ := Prod.mk.inj (pure_eq_ok.1 hoffer)
      exact (hset _ _).2 ⟨hcurrency, totalPrice, htotal, rfl⟩
    · simp only [bind_eq_ok, pure_eq_ok, Prod.mk.injEq] at hoffer
      obtain ⟨_, hprice, rfl, rfl⟩ := hoffer
      exact Step.runOn_answer_bind_eq_ok.2
        ⟨_, hprice, (hset _ _).2 ⟨hcurrency, totalPrice, htotal, rfl⟩⟩

/-- The same wares are given the same price by the same rules, whatever they cost before. -/
theorem SameWares.runOn_setCataloguePrice (hsame : line.SameWares other)
    (h : (setCataloguePrice book channel now).runOn line = (.ok u, line')) :
    (setCataloguePrice book channel now).runOn other =
      (.ok u, other.pricedAt line'.discountedUnitPrice line'.rules line'.totalPrice) := by
  obtain ⟨price, rules, totalPrice, hoffer, hcurrency, htotal, rfl⟩ := setCataloguePrice_eq_ok.1 h
  rw [← hsame.catalogueOffer] at hoffer
  rw [← hsame.undiscountedUnitPrice] at hcurrency
  rw [← hsame.quantity] at htotal
  exact setCataloguePrice_eq_ok.2 ⟨price, rules, totalPrice, hoffer, hcurrency, htotal, rfl⟩

/-- Lines that sell the same are the same afterwards but for their records. -/
theorem setCataloguePrice_congr (hsame : line.SameGoods other)
    (h : (setCataloguePrice book channel now).runOn line = (.ok u, line')) :
    (setCataloguePrice book channel now).runOn other =
      (.ok u, { line' with discounts := other.discounts }) := by
  have hother := hsame.sameWares.runOn_setCataloguePrice h
  obtain ⟨_, _, _, -, -, -, rfl⟩ := setCataloguePrice_eq_ok.1 h
  exact hsame.pricedAt ▸ hother

theorem sameGoods_setCataloguePrice
    (h : (setCataloguePrice book channel now).runOn line = (.ok u, line')) :
    line.SameGoods line' := by
  obtain ⟨_, _, _, -, -, -, rfl⟩ := setCataloguePrice_eq_ok.1 h
  exact ⟨rfl, rfl, rfl, rfl, rfl⟩

theorem sameRecords_setCataloguePrice
    (h : (setCataloguePrice book channel now).runOn line = (.ok u, line')) :
    line.SameRecords line' := by
  obtain ⟨_, _, _, -, -, -, rfl⟩ := setCataloguePrice_eq_ok.1 h
  exact ⟨rfl, rfl⟩

/-! ## What is offered -/

/-- The rule of a line: the channel has it, it is active and related to the variant, and it takes
off each unit what the catalogue price is below the full price. -/
structure RuleOffers (book : Promotions) (channel : ChannelKey) (now : Instant) (line : Line)
    (key : RuleKey) (saving : Money) : Prop where
  offers : ∃ rule, book.Offers key rule channel now
  related : book.relation.contains (key, line.variant)
  saving_eq : line.undiscountedUnitPrice.sub line.discountedUnitPrice = .ok saving

/-- A line is offered its full price, or what one rule leaves of it. -/
theorem catalogueOffer_cases (h : line.catalogueOffer book channel now = .ok (price, rules)) :
    (price = line.undiscountedUnitPrice ∧ rules = []) ∨
      ∃ key saving, rules = [⟨key, some saving⟩] ∧
        ∀ totalPrice, (line.pricedAt price.floorAtZero rules totalPrice).RuleOffers book channel now
          key saving := by
  simp only [catalogueOffer, bind_eq_ok] at h
  obtain ⟨best, hbest, h⟩ := h
  rcases best with _ | ⟨key, saving⟩
  · obtain ⟨rfl, rfl⟩ := Prod.mk.inj (pure_eq_ok.1 h)
    exact .inl ⟨rfl, rfl⟩
  · simp only [bind_eq_ok, pure_eq_ok, Prod.mk.injEq, Money.sub_eq_ok] at h
    obtain ⟨_, ⟨hcurrency, rfl⟩, rfl, rfl⟩ := h
    obtain ⟨rule, hrule, havailable, hsaving⟩ := exists_of_bestOffer_eq_some hbest
    obtain ⟨hactive, hrelated⟩ := Promotions.mem_activeRulesOf.1 hrule
    obtain ⟨later, hlater, rfl⟩ := DiscountValue.amountOff_eq_ok.1 hsaving
    refine .inr ⟨key, _, rfl, fun totalPrice => ⟨⟨rule, hactive, havailable⟩, hrelated, ?_⟩⟩
    -- The price less the saving is what the discount left, which has been floored already.
    have hleft : Money.mk (line.undiscountedUnitPrice.minor -
        (line.undiscountedUnitPrice.minor - later.minor)) line.undiscountedUnitPrice.currency =
          later := by
      rw [sub_sub_cancel, ← (discountedPrice_floored hlater).2]
    simp only [pricedAt, hleft, DiscountValue.floorAtZero_apply hlater, Money.sub_eq_ok, and_true]
    exact (discountedPrice_floored hlater).2.symm

end Line

/-! ## All lines -/

variable {lines lines' others : List Line}

theorem cataloguePrices_eq_ok :
    (cataloguePrices book channel now).runOn lines = (.ok u, lines') ↔
      List.Forall₂ (fun line line' =>
        (Line.setCataloguePrice book channel now).runOn line = (.ok (), line')) lines lines' := by
  rw [cataloguePrices, Step.runOn_discard_eq_ok]
  constructor
  · rintro ⟨_, heach⟩
    obtain ⟨results, hresults, -, rfl⟩ := Step.runOn_onEach_eq_ok.1 heach
    rw [List.forall₂_map_right_iff]
    exact hresults
  · intro hlines
    refine ⟨_, Step.runOn_onEach_eq_ok.2 ⟨lines'.map ((), ·), ?_, rfl, ?_⟩⟩
    · rw [List.forall₂_map_right_iff]
      exact hlines
    · rw [List.map_map]
      exact (List.map_id lines').symm

/-- Lines that sell the same are given the same prices, and keep their own records. -/
theorem cataloguePrices_congr (hsame : List.Forall₂ Line.SameGoods lines others)
    (h : (cataloguePrices book channel now).runOn lines = (.ok u, lines')) :
    ∃ others', (cataloguePrices book channel now).runOn others = (.ok u, others') ∧
      List.Forall₂ Line.SameButRecords lines' others' := by
  rw [cataloguePrices_eq_ok] at h
  induction hsame generalizing lines' with
  | nil =>
    cases h
    exact ⟨[], cataloguePrices_eq_ok.2 .nil, .nil⟩
  | cons hline _ ih =>
    cases h with
    | cons hpriced hrest =>
      obtain ⟨others', hothers, hsame'⟩ := ih hrest
      exact ⟨_, cataloguePrices_eq_ok.2 (.cons (Line.setCataloguePrice_congr hline hpriced)
        (cataloguePrices_eq_ok.1 hothers)), .cons rfl hsame'⟩

theorem sameGoods_cataloguePrices
    (h : (cataloguePrices book channel now).runOn lines = (.ok u, lines')) :
    List.Forall₂ Line.SameGoods lines lines' :=
  (cataloguePrices_eq_ok.1 h).imp fun _ _ => Line.sameGoods_setCataloguePrice

theorem sameRecords_cataloguePrices
    (h : (cataloguePrices book channel now).runOn lines = (.ok u, lines')) :
    List.Forall₂ Line.SameRecords lines lines' :=
  (cataloguePrices_eq_ok.1 h).imp fun _ _ => Line.sameRecords_setCataloguePrice

/-- A promotion with a catalogue rule for each of these percentages. -/
def catalogueRules (percentages : List Decimal) : Promotions where
  promotions := Registry.empty.push
    { id := ⟨1⟩, name := some "Sale", oldSaleId := none, start := ⟨0⟩, finish := none,
      localizations := [] }
  rules := percentages.foldl (fun rules percentage => rules.push
    { promotion := ⟨1⟩, name := none, channels := [⟨1⟩], target := .catalogue {}
      value := ⟨percentage, .percentage⟩, localizations := [] }) .empty
  relation := .empty

end Retail
