import Retail.Proofs.Deal

/-!
# Baskets with another history

Whatever promotions made of two baskets that sell the same, they give them the same when both are
settled at the same time. Records are the same up to their keys and to the forms of their values.

## Main definitions

* `Line.Alike`: lines that are the same up to keys and forms
* `Basket.SamePromotions`: baskets that are the same but for the records that no promotion gave

## Main results

* `Line.Synced.alike`: lines that were brought in step
* `Basket.winner_congr`: the order promotion that wins
* `Basket.Settled.samePromotions`: baskets that were settled
-/

namespace Retail

/-- The same discount is shown, or none. -/
def DiscountSummary.Alike (summary other : DiscountSummary) : Prop :=
  other = summary ∨ summary.isNone ∧ other.isNone

/-! ## Lines -/

/-- The lines are the same, and their records say the same. -/
structure Line.Alike (line other : Line) : Prop where
  same : line.SameButRecords other
  discounts : List.Forall₂ (fun a b : DiscountRecord => a.Alike b.toDiscount) line.discounts
    other.discounts

/-- Records that carry the same terms at the same place say the same. -/
theorem alike_of_carries {grants : List PromotionTerms} {records others : List DiscountRecord}
    (scope : DiscountScope) (kind : DiscountKind)
    (hplain : ∀ record ∈ records ++ others,
      record.scope = scope ∧ record.kind = kind ∧ record.Plain)
    (h : List.Forall₂ (fun terms (record : DiscountRecord) => record.Carries terms) grants records)
    (h' : List.Forall₂ (fun terms (record : DiscountRecord) => record.Carries terms) grants
      others) :
    List.Forall₂ (fun a b : DiscountRecord => a.Alike b.toDiscount) records others := by
  have horigin : ∀ record ∈ records, ∀ other ∈ others,
      record.toDiscount.SameOrigin other.toDiscount := by
    intro record hrecord other hother
    obtain ⟨hscope, hkind, hplain₁⟩ := hplain record (List.mem_append_left _ hrecord)
    obtain ⟨hscope', hkind', hplain₂⟩ := hplain other (List.mem_append_right _ hother)
    exact ⟨hscope.trans hscope'.symm, hkind.trans hkind'.symm,
      hplain₁.voucher.trans hplain₂.voucher.symm,
      hplain₁.voucherCode.trans hplain₂.voucherCode.symm⟩
  clear hplain
  induction h generalizing others with
  | nil =>
    cases h'
    exact .nil
  | cons hcarries _ ih =>
    cases h' with
    | cons hcarries' hrest' =>
      refine .cons (hcarries.alike hcarries' (horigin _ List.mem_cons_self _ List.mem_cons_self))
        (ih hrest' fun record hrecord other hother => ?_)
      exact horigin record (List.mem_cons_of_mem _ hrecord) other (List.mem_cons_of_mem _ hother)

/-- Lines that differ in their records come out alike when they are brought in step. -/
theorem Line.Synced.alike {book : Promotions} {language : Option String}
    {line other synced synced' : Line} (hsame : line.SameButRecords other)
    (h : line.Synced book language synced) (h' : other.Synced book language synced')
    (htidy : line.Tidy) (htidy' : other.Tidy) (hrules : line.rules.length ≤ 1)
    (hplaced : synced.Placed) (hplaced' : synced'.Placed) : synced.Alike synced' := by
  have hrules' : other.rules.length ≤ 1 := by
    rw [hsame]
    exact hrules
  have hkey : synced'.key = synced.key := by rw [h'.same, hsame, h.same]
  obtain ⟨grants, hgrants, -, hcarries⟩ := h.carries htidy hrules
  obtain ⟨grants', hgrants', -, hcarries'⟩ := h'.carries htidy' hrules'
  obtain rfl : grants = grants' :=
    Except.ok.inj ((hsame.grants.trans hgrants).symm.trans hgrants')
  refine ⟨?_, alike_of_carries (.line synced.key) .promotion ?_ hcarries hcarries'⟩
  · rw [SameButRecords, h'.same, hsame, h.same]
  · have hsynced := h.tidy htidy hrules
    have hsynced' := h'.tidy htidy' hrules'
    simp only [List.forall_mem_append]
    refine ⟨fun record hrecord => ⟨hplaced record hrecord, hsynced.promotion record hrecord,
      hsynced.plain record hrecord⟩, fun record hrecord => ⟨?_, hsynced'.promotion record hrecord,
      hsynced'.plain record hrecord⟩⟩
    rw [hplaced' record hrecord, hkey]

/-! ## Prices -/

/-- Lines that sell the same are given the same prices. -/
theorem sameButRecords_of_cataloguePrices {book : Promotions} {channel : ChannelKey} {now : Instant}
    {lines others lines' others' : List Line} {u u' : Unit}
    (hsame : List.Forall₂ Line.SameGoods lines others)
    (h : (cataloguePrices book channel now).runOn lines = (.ok u, lines'))
    (h' : (cataloguePrices book channel now).runOn others = (.ok u', others')) :
    List.Forall₂ Line.SameButRecords lines' others' := by
  obtain ⟨_, hothers, hsame'⟩ := cataloguePrices_congr hsame h
  obtain ⟨-, rfl⟩ := Prod.mk.inj (hothers.symm.trans h')
  exact hsame'

/-! ## Baskets -/

namespace Basket

variable {basket other settled settled' : Basket} {shipping : Money} {book : Promotions}
  {now : Instant}

/-- The baskets are the same but for lines, records, base prices and the discount that is shown. -/
def SameFrame (basket other : Basket) : Prop :=
  other = { basket with
    lines := other.lines
    baseSubtotal := other.baseSubtotal
    baseTotal := other.baseTotal
    discounts := other.discounts
    discount := other.discount }

theorem SameDeal.sameFrame (h : basket.SameDeal other) : basket.SameFrame other := by
  rw [SameFrame, ← h.channel, ← h.currency, ← h.voucher, ← h.voucherCode, ← h.email, ← h.customer,
    ← h.language]

/-- Which order promotion wins does not depend on records. -/
theorem winner_congr (hframe : basket.SameFrame other)
    (hlines : List.Forall₂ Line.SameButRecords basket.lines other.lines) :
    other.winner shipping book now = basket.winner shipping book now := by
  have hsubtotal : other.subtotal = basket.subtotal := by
    have htotals := hlines.imp fun _ _ => Line.SameButRecords.baseTotal
    rw [subtotal, subtotal, baseSubtotal_congr htotals, hframe]
  have hprices : other.basePricesWith shipping = basket.basePricesWith shipping := by
    rw [basePricesWith, basePricesWith, hsubtotal]
  rw [winner, winner, hprices, hframe]

/-- The baskets are the same and have the same promotions. Without a voucher code they show the same
discount. -/
structure SamePromotions (basket other : Basket) : Prop where
  eq : other = { basket with
    lines := other.lines, discounts := other.discounts, discount := other.discount }
  lines : List.Forall₂ Line.Alike basket.lines other.lines
  orderPromotions : List.Forall₂ (fun a b : DiscountRecord => a.Alike b.toDiscount)
    basket.orderPromotions other.orderPromotions
  discount : basket.voucherCode = none → basket.discount.Alike other.discount

/-- Lines that differ in their records come out alike when their promotions are settled. -/
theorem Settled.alike_lines (hlines : List.Forall₂ Line.SameButRecords basket.lines other.lines)
    (hlanguage : other.language = basket.language) (hregular : basket.Regular)
    (hregular' : other.Regular) (hrules : ∀ line ∈ basket.lines, line.rules.length ≤ 1)
    (h : basket.Settled shipping book now settled) (h' : other.Settled shipping book now settled')
    (hplaced : settled.Placed) (hplaced' : settled'.Placed) :
    List.Forall₂ Line.Alike settled.lines settled'.lines := by
  refine forall₂_square hlines h.lines h'.lines ?_
  intro line hline other hother synced hsynced synced' hsynced' hsame hsync hsync'
  rw [hlanguage] at hsync'
  exact hsync.alike hsame hsync' (hregular.lines line hline) (hregular'.lines other hother)
    (hrules line hline) (hplaced.line synced hsynced) (hplaced'.line synced' hsynced')

/-- What was settled carries the terms that won. -/
theorem Settles.carries {winner : Option PromotionTerms} (h : basket.Settles settled winner) :
    List.Forall₂ (fun terms (record : DiscountRecord) => record.Carries terms) winner.toList
      settled.orderPromotions := by
  cases winner with
  | none =>
    rw [show settled = _ from h, orderPromotions_cleared]
    exact .nil
  | some terms =>
    obtain ⟨record, hkept⟩ := h
    rw [hkept.orderPromotions]
    exact .cons hkept.carries .nil

theorem Regular.orderPromotions (hregular : basket.Regular) (hplaced : basket.Placed) :
    ∀ record ∈ basket.orderPromotions,
      record.scope = .order ∧ record.kind = .orderPromotion ∧ record.Plain := by
  intro record hrecord
  obtain ⟨hmem, hkind⟩ := List.mem_filter.1 hrecord
  exact ⟨hplaced.order record hmem, beq_iff_eq.1 hkind, hregular.plain record hrecord⟩

/-- Without a voucher code a basket that was cleared shows no discount. -/
theorem isNone_discount_cleared (hcode : basket.voucherCode = none) :
    basket.cleared.discount.isNone := by
  have hdiscount := basket.discount_cleared
  rwa [hcode] at hdiscount

/-- Baskets without voucher codes for which the same order promotion won show the same. -/
theorem Settles.discount_alike {winner : Option PromotionTerms} (h : basket.Settles settled winner)
    (h' : other.Settles settled' winner) (hcode : settled.voucherCode = none)
    (hcode' : settled'.voucherCode = none) : settled.discount.Alike settled'.discount := by
  cases winner with
  | none =>
    rw [show settled = _ from h] at hcode ⊢
    rw [show settled' = _ from h'] at hcode' ⊢
    exact .inr ⟨isNone_discount_cleared hcode, isNone_discount_cleared hcode'⟩
  | some terms =>
    obtain ⟨record, hkept⟩ := h
    obtain ⟨record', hkept'⟩ := h'
    rw [hkept.eq, hkept'.eq]
    exact .inl rfl

/-- Whatever promotions the baskets had before, they have the same once they are settled. -/
theorem Settled.samePromotions (hframe : basket.SameFrame other)
    (hlines : List.Forall₂ Line.SameButRecords basket.lines other.lines)
    (hregular : basket.Regular) (hregular' : other.Regular)
    (hrules : ∀ line ∈ basket.lines, line.rules.length ≤ 1)
    (h : basket.Settled shipping book now settled) (h' : other.Settled shipping book now settled')
    (hplaced : settled.Placed) (hplaced' : settled'.Placed) : settled.SamePromotions settled' := by
  have hlanguage : other.language = basket.language := by rw [hframe]
  have halike := h.alike_lines hlines hlanguage hregular hregular' hrules h' hplaced hplaced'
  have hrules' : ∀ line ∈ other.lines, line.rules.length ≤ 1 := by
    intro line hline
    obtain ⟨source, hsource, hsame⟩ := exists_left_of_forall₂ hlines hline
    rw [hsame]
    exact hrules source hsource
  have hsettled := h.regular hregular hrules
  have hsettled' := h'.regular hregular' hrules'
  obtain ⟨-, prices, winner, hwinner, hsettles⟩ := h
  obtain ⟨-, prices', winner', hwinner', hsettles'⟩ := h'
  have hsame : ({ other with lines := settled'.lines } : Basket).winner shipping book now =
      ({ basket with lines := settled.lines } : Basket).winner shipping book now := by
    refine winner_congr ?_ (halike.imp fun _ _ => Line.Alike.same)
    rw [SameFrame, hframe]
  have hboth := Except.ok.inj (hwinner'.symm.trans (hsame.trans hwinner))
  obtain ⟨rfl, rfl⟩ := Prod.mk.inj hboth
  have heq : settled' = { settled with
      lines := settled'.lines
      discounts := settled'.discounts
      discount := settled'.discount } := by
    rw [hsettles'.eq, hsettles.eq, hframe]
    rfl
  refine ⟨heq, halike, alike_of_carries .order .orderPromotion (List.forall_mem_append.2
    ⟨hsettled.orderPromotions hplaced, hsettled'.orderPromotions hplaced'⟩) hsettles.carries
    hsettles'.carries, fun hcode => hsettles.discount_alike hsettles' hcode ?_⟩
  rw [heq]
  exact hcode

/-- Baskets that differ at most in what promotions made of them have the same promotions once they
are settled at the same time. -/
theorem SameDeal.samePromotions {lines lines' : List Line} (hdeal : basket.SameDeal other)
    (hregular : basket.Regular) (hregular' : other.Regular)
    (hlines : (cataloguePrices book basket.channel now).runOn basket.lines = (.ok (), lines))
    (hlines' : (cataloguePrices book other.channel now).runOn other.lines = (.ok (), lines'))
    (h : ({ basket with lines } : Basket).Settled shipping book now settled)
    (h' : ({ other with lines := lines' } : Basket).Settled shipping book now settled')
    (hplaced : settled.Placed) (hplaced' : settled'.Placed) : settled.SamePromotions settled' := by
  rw [hdeal.channel] at hlines'
  have hframe : ({ basket with lines } : Basket).SameFrame { other with lines := lines' } := by
    rw [SameFrame, hdeal.sameFrame]
  refine h.samePromotions hframe (sameButRecords_of_cataloguePrices hdeal.lines hlines hlines') ?_
    ?_ (rules_length_of_cataloguePrices hlines) h' hplaced hplaced'
  · exact hregular.of_eq (forall_tidy (sameRecords_cataloguePrices hlines) hregular.lines) rfl
  · exact hregular'.of_eq (forall_tidy (sameRecords_cataloguePrices hlines') hregular'.lines) rfl

/-- The records that no promotion gave stand before the order promotion. -/
theorem SamePromotions.forall₂_discounts {R : DiscountRecord → DiscountRecord → Prop}
    (h : settled.SamePromotions settled') (hregular : settled.Regular)
    (hregular' : settled'.Regular)
    (hothers : List.Forall₂ R settled.otherDiscounts settled'.otherDiscounts)
    (halike : ∀ a b : DiscountRecord, a.Alike b.toDiscount → R a b) :
    List.Forall₂ R settled.discounts settled'.discounts := by
  rw [hregular.discounts_eq, hregular'.discounts_eq]
  exact List.rel_append hothers (h.orderPromotions.imp halike)

end Basket

end Retail
