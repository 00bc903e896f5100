import Retail.Proofs.Discount.Bounds
import Retail.Proofs.Line.Redistribution
import Retail.Proofs.Promotion.Offer

/-!
# The cheapest catalogue price

A line is given the lowest price that one of the rules for its variant leaves of the full price.
Rules are not combined. Where several leave that price, the line notes the one that was entered
first, and where no rule applies it is given its full price.

The choice compares savings of 64 bits. On a full price of 64 bits that is not negative all savings
are such amounts, so the largest saving is the lowest price.

## Main definitions

* `Promotions.AppliesTo`: a rule that applies to a variant in a channel
* `Line.Lowest`: the lowest price that such a rule leaves, and the first rule that leaves it
* `Line.Cheapest`: a line before and after it was given its catalogue price

## Main results

* `Line.cheapest_setCataloguePrice`: one line
* `cheapest_cataloguePrices`: all lines, each of them whatever the others are
-/

namespace Retail

variable {book : Promotions} {channel : ChannelKey} {now : Instant}

/-! ## Rules for a variant -/

/-- The rule is related to the variant, its promotion is active and the channel has it. -/
structure Promotions.AppliesTo (book : Promotions) (key : RuleKey) (rule : Rule)
    (variant : VariantKey) (channel : ChannelKey) (now : Instant) : Prop
    extends book.Offers key rule channel now where
  related : book.relation.contains (key, variant)

/-- What is offered for a variant are the discounts of the rules that apply to it. -/
theorem Promotions.mem_offersIn_activeRulesOf {key : RuleKey} {discount : DiscountValue}
    {variant : VariantKey} :
    (key, discount) ∈ offersIn (book.activeRulesOf variant now) channel ↔
      ∃ rule, book.AppliesTo key rule variant channel now ∧ discount = rule.value := by
  rw [mem_offersIn]
  refine exists_congr fun rule => ?_
  rw [mem_activeRulesOf]
  constructor
  · rintro ⟨⟨hactive, hrelated⟩, havailable, hdiscount⟩
    exact ⟨⟨⟨hactive, havailable⟩, hrelated⟩, hdiscount⟩
  · rintro ⟨happlies, hdiscount⟩
    exact ⟨⟨happlies.toActive, happlies.related⟩, happlies.available, hdiscount⟩

namespace Line

variable {line line' other : Line} {key : RuleKey} {price saving : Money} {u : Unit}

/-! ## The lowest price -/

/-- The rule leaves this price, no rule leaves a lower one, and none that was entered before leaves
the same. -/
structure Lowest (book : Promotions) (channel : ChannelKey) (now : Instant) (line : Line)
    (key : RuleKey) (price : Money) : Prop where
  attained : ∃ rule, book.AppliesTo key rule line.variant channel now ∧
    rule.value.apply line.undiscountedUnitPrice = .ok price
  least : ∀ key' rule', book.AppliesTo key' rule' line.variant channel now →
    ∃ price', rule'.value.apply line.undiscountedUnitPrice = .ok price' ∧
      price.minor ≤ price'.minor ∧ (price'.minor = price.minor → key.index ≤ key'.index)

/-- The first of the largest savings leaves the lowest price. -/
theorem lowest_of_firstLargest {discount : DiscountValue}
    (hprice : 0 ≤ line.undiscountedUnitPrice.minor) (hfits : fitsMinor line.undiscountedUnitPrice.minor)
    (h : FirstLargest Money.minorUnits (fun offer => offer.2.amountOff line.undiscountedUnitPrice)
      (offersIn (book.activeRulesOf line.variant now) channel) (key, discount) saving) :
    ∃ price, line.Lowest book channel now key price ∧
      saving = ⟨line.undiscountedUnitPrice.minor - price.minor, line.currency⟩ := by
  have hexact := h.exact fun _ _ _ hoff => DiscountValue.fitsMinor_amountOff hoff hprice hfits
  obtain ⟨price, happly, rfl⟩ := DiscountValue.amountOff_eq_ok.1 hexact.amount_eq
  obtain ⟨rule, hrule, rfl⟩ := Promotions.mem_offersIn_activeRulesOf.1 hexact.mem
  refine ⟨price, ⟨⟨rule, hrule, happly⟩, ?_⟩, rfl⟩
  intro key' rule' hrule'
  have hmem := Promotions.mem_offersIn_activeRulesOf.2 ⟨rule', hrule', rfl⟩
  obtain ⟨money, hmoney, hle⟩ := hexact.le_of_mem hmem
  obtain ⟨price', happly', rfl⟩ := DiscountValue.amountOff_eq_ok.1 hmoney
  refine ⟨price', happly', ?_, ?_⟩
  · simp only at hle
    omega
  · -- Rules stand in the order of their keys, and of several the first one was taken.
    intro hequal
    have hascending : (offersIn (book.activeRulesOf line.variant now) channel).Pairwise
        fun a b => a.1.index < b.1.index := by
      apply Promotions.ascending_offersIn
      exact book.ascending_activeRulesOf line.variant now
    refine hexact.first hascending hmem hmoney ?_
    rw [hequal]

/-! ## One line -/

/-- The line was given its full price where no rule applies, and otherwise the lowest price that one
leaves, by the first rule that leaves it. All prices of the line follow. -/
structure Cheapest (book : Promotions) (channel : ChannelKey) (now : Instant)
    (line line' : Line) : Prop where
  full : (∀ key rule, ¬ book.AppliesTo key rule line.variant channel now) →
    line'.discountedUnitPrice = line.undiscountedUnitPrice ∧ line'.rules = []
  lowest : ∀ key rule, book.AppliesTo key rule line.variant channel now →
    ∃ best, line.Lowest book channel now best line'.discountedUnitPrice ∧
      line'.rules = [⟨best, some ⟨line.undiscountedUnitPrice.minor - line'.discountedUnitPrice.minor,
        line.currency⟩⟩]
  nonneg : 0 ≤ line'.discountedUnitPrice.minor
  le : line'.discountedUnitPrice.minor ≤ line.undiscountedUnitPrice.minor
  eq : line' = line.pricedAt line'.discountedUnitPrice line'.rules
    ⟨line'.discountedUnitPrice.minor * line.quantity, line.currency⟩

theorem Lowest.bounds (h : line.Lowest book channel now key price) (hbook : book.Nonnegative)
    (hprice : 0 ≤ line.undiscountedUnitPrice.minor) :
    0 ≤ price.minor ∧ price.minor ≤ line.undiscountedUnitPrice.minor := by
  obtain ⟨rule, hrule, happly⟩ := h.attained
  exact discountedPrice_bounds (hbook.get? hrule.entered) hprice happly

/-- The offer is the full price where no rule applies, and otherwise the lowest price. -/
theorem catalogueOffer_cheapest {rules : List LineRule}
    (hprice : 0 ≤ line.undiscountedUnitPrice.minor) (hfits : fitsMinor line.undiscountedUnitPrice.minor)
    (h : line.catalogueOffer book channel now = .ok (price, rules)) :
    ((∀ key rule, ¬ book.AppliesTo key rule line.variant channel now) ∧
        price = line.undiscountedUnitPrice ∧ rules = []) ∨
      ∃ best, line.Lowest book channel now best price ∧
        rules = [⟨best, some ⟨line.undiscountedUnitPrice.minor - price.minor, line.currency⟩⟩] := by
  simp only [catalogueOffer, bind_eq_ok] at h
  obtain ⟨found, hfound, h⟩ := h
  rcases offers_of_bestOffer_eq_ok hfound with ⟨hnone, rfl⟩ | ⟨best, discount, saving, rfl, hfirst⟩
  · obtain ⟨rfl, rfl⟩ := Prod.mk.inj (pure_eq_ok.1 h)
    refine .inl ⟨fun key rule hrule => ?_, rfl, rfl⟩
    have hmem := Promotions.mem_offersIn_activeRulesOf.2 ⟨rule, hrule, rfl⟩
    rw [hnone] at hmem
    exact List.not_mem_nil hmem
  · obtain ⟨lowest, hlowest, rfl⟩ := lowest_of_firstLargest hprice hfits hfirst
    simp only [bind_eq_ok, pure_eq_ok, Prod.mk.injEq, Money.sub_eq_ok] at h
    obtain ⟨_, ⟨-, rfl⟩, rfl, rfl⟩ := h
    have hleft : Money.mk (line.undiscountedUnitPrice.minor -
        (line.undiscountedUnitPrice.minor - lowest.minor)) line.undiscountedUnitPrice.currency =
          lowest := by
      obtain ⟨rule, -, happly⟩ := hlowest.attained
      rw [sub_sub_cancel, ← (discountedPrice_floored happly).2]
    rw [hleft]
    exact .inr ⟨best, hlowest, rfl⟩

/-- A line is given the cheapest price that its rules allow. -/
theorem cheapest_setCataloguePrice (hbook : book.Nonnegative)
    (hprice : 0 ≤ line.undiscountedUnitPrice.minor) (hfits : fitsMinor line.undiscountedUnitPrice.minor)
    (h : (setCataloguePrice book channel now).runOn line = (.ok u, line')) :
    line.Cheapest book channel now line' := by
  obtain ⟨price, rules, totalPrice, hoffer, hcurrency, htotal, rfl⟩ := setCataloguePrice_eq_ok.1 h
  have hcases := catalogueOffer_cheapest hprice hfits hoffer
  have hbounds : 0 ≤ price.minor ∧ price.minor ≤ line.undiscountedUnitPrice.minor := by
    rcases hcases with ⟨-, rfl, -⟩ | ⟨best, hlowest, -⟩
    · exact ⟨hprice, le_rfl⟩
    · exact hlowest.bounds hbook hprice
  rw [Money.floorAtZero_of_nonneg hbounds.1] at htotal ⊢
  refine ⟨fun hnone => ?_, fun key rule hrule => ?_, hbounds.1, hbounds.2, ?_⟩
  · rcases hcases with ⟨-, rfl, rfl⟩ | ⟨best, hlowest, -⟩
    · exact ⟨rfl, rfl⟩
    · obtain ⟨rule, hrule, -⟩ := hlowest.attained
      exact absurd hrule (hnone best rule)
  · rcases hcases with ⟨hnone, -, -⟩ | hsome
    · exact absurd hrule (hnone key rule)
    · exact hsome
  · have hpriceFits : fitsMinor price.minor := by
      rw [fitsMinor_iff] at hfits ⊢
      omega
    obtain ⟨-, rfl⟩ := Money.times_eq_ok.1 htotal
    rw [Money.minorUnits_of_fits hpriceFits, ← hcurrency]
    rfl

end Line

/-! ## All lines -/

/-- **The cheapest price.** Each line is given the lowest price that a rule leaves, or its full price
where none applies. The same wares are given the same price by the same rule, whatever was charged
for them before and whichever other lines are beside them. -/
theorem cheapest_cataloguePrices {lines lines' : List Line} (hbook : book.Nonnegative)
    (hprices : ∀ line ∈ lines,
      0 ≤ line.undiscountedUnitPrice.minor ∧ fitsMinor line.undiscountedUnitPrice.minor)
    (h : (cataloguePrices book channel now).runOn lines = (.ok (), lines')) :
    List.Forall₂ (fun line line' => line.Cheapest book channel now line' ∧
      ∀ other before after others', line.SameWares other →
        (cataloguePrices book channel now).runOn (before ++ other :: after) = (.ok (), others') →
        others'[before.length]? =
          some (other.pricedAt line'.discountedUnitPrice line'.rules line'.totalPrice))
      lines lines' := by
  refine forall₂_imp_of_mem (cataloguePrices_eq_ok.1 h) fun line hline line' _ hpriced => ?_
  obtain ⟨hprice, hfits⟩ := hprices line hline
  refine ⟨Line.cheapest_setCataloguePrice hbook hprice hfits hpriced, ?_⟩
  intro other before after others' hsame hothers
  obtain ⟨hlength, hpriced'⟩ := List.forall₂_iff_get.1 (cataloguePrices_eq_ok.1 hothers)
  have hlt : before.length < (before ++ other :: after).length := by simp
  have hother := hpriced' before.length hlt (hlength ▸ hlt)
  rw [List.get_eq_getElem, List.getElem_append_right le_rfl] at hother
  simp only [Nat.sub_self, List.getElem_cons_zero] at hother
  have hagain := hsame.runOn_setCataloguePrice hpriced
  rw [List.getElem?_eq_getElem (hlength ▸ hlt)]
  exact congrArg some (Prod.mk.inj (hother.symm.trans hagain)).2

/-- Rules of one and of a hundred percent, the latter entered twice, for the first variant only. -/
def shelfRules : Promotions :=
  { catalogueRules [.one, .hundred, .hundred] with
    relation := .ofList [(⟨3⟩, ⟨1⟩), (⟨1⟩, ⟨1⟩), (⟨2⟩, ⟨1⟩)] }

/-- Three units that were sold at a penny by the first rule, and one unit of another variant. -/
def shelf : List Line :=
  [{ unitLine ⟨1000, .gbp⟩ with
      quantity := 3, discountedUnitPrice := ⟨1, .gbp⟩, rules := [⟨⟨1⟩, none⟩] },
    { unitLine ⟨500, .gbp⟩ with key := ⟨2⟩, variant := ⟨2⟩ }]

/-- The three units are free by the second rule, and the other one keeps its price. -/
theorem cheapest_cataloguePrices_shelf : ∃ lines',
    (cataloguePrices shelfRules ⟨1⟩ ⟨0⟩).runOn shelf = (.ok (), lines') ∧
    List.Forall₂ (fun line line' => line.Cheapest shelfRules ⟨1⟩ ⟨0⟩ line') shelf lines' ∧
    lines'.map (fun line => (line.discountedUnitPrice.minor, line.rules)) =
      [(0, [⟨⟨2⟩, some ⟨1000, .gbp⟩⟩]), (500, [])] := by
  have hok : ((cataloguePrices shelfRules ⟨1⟩ ⟨0⟩).runOn shelf).1 = .ok () := by decide +kernel
  have hrun : (cataloguePrices shelfRules ⟨1⟩ ⟨0⟩).runOn shelf = (.ok (), _) := Prod.ext hok rfl
  have hprices : ((cataloguePrices shelfRules ⟨1⟩ ⟨0⟩).runOn shelf).2.map
      (fun line => (line.discountedUnitPrice.minor, line.rules)) =
        [(0, [⟨⟨2⟩, some ⟨1000, .gbp⟩⟩]), (500, [])] := by decide +kernel
  have hnonneg : shelfRules.Nonnegative := by decide
  have hcheapest := cheapest_cataloguePrices hnonneg (by decide) hrun
  exact ⟨_, hrun, hcheapest.imp fun _ _ h => h.1, hprices⟩

end Retail
