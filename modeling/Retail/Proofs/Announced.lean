import Retail.Proofs.Fresh

/-!
# Announced and charged

What a basket announces of its order promotion goes by the kind of reward, what an order is charged
for it by the value that the record carries. For a discount on the subtotal both are one amount. A
gift is announced as nothing, and its value is taken off the subtotal all the same.

## Main definitions

* `Basket.Announces`: a basket with the record of an order rule, which shows what the rule gives
* `Order.Announced`: an order, what it shows and what its subtotal lost

## Main results

* `Basket.Settled.announces`: the rule that won is announced
* `Order.announced_reconcile`: what is announced is charged, but for gifts
* `Assembly.Loaded.announced_of_run`: the same for all orders of an assembled scenario
* `Assembly.gift_charged`: a gift that is taken off the subtotal
-/

namespace Retail

/-! ## Baskets -/

section Baskets

variable {basket settled : Basket} {shipping : Money} {book : Promotions} {now : Instant}
  {record : DiscountRecord}

/-- The record is of an order rule and carries its value, and the basket shows what the rule gives
on its base subtotal. -/
structure Basket.Announces (book : Promotions) (basket : Basket) (record : DiscountRecord)
    (rule : Rule) : Prop where
  entered : record.rule.bind book.rules.get? = some rule
  isOrderRule : rule.isOrderRule
  value : record.value.sameValue rule.value.value
  valueType : record.valueType = rule.value.valueType
  reward : rule.reward basket.baseSubtotal basket.currency = .ok basket.discount.amount

theorem Rule.isOrderRule_of_appliesTo {rule : Rule} {prices : BasePrices}
    (h : rule.appliesTo prices) : rule.isOrderRule := by
  rw [appliesTo] at h
  rw [isOrderRule]
  cases htarget : rule.target with
  | catalogue predicate => simp [htarget] at h
  | order predicate reward => rfl

/-- The order promotion of a basket is that of the rule that won. -/
theorem Basket.Settled.announces (h : basket.Settled shipping book now settled)
    (hrecord : record ∈ settled.orderPromotions) : ∃ rule, settled.Announces book record rule := by
  obtain ⟨-, prices, winner, hwinner, hsettles⟩ := h
  cases winner with
  | none =>
    rw [show settled = _ from hsettles, orderPromotions_cleared] at hrecord
    exact absurd hrecord List.not_mem_nil
  | some terms =>
    obtain ⟨kept, hkept⟩ := hsettles
    rw [hkept.orderPromotions, List.mem_singleton] at hrecord
    subst hrecord
    obtain ⟨-, -, rule, hwins⟩ := winner_eq_some hwinner
    obtain ⟨hoffers, happlies⟩ := Promotions.mem_rulesForPrices.1 hwins.largest.mem
    obtain ⟨promotion, -, hterms⟩ := hwins.terms_eq
    have hvalue : terms.value = rule.value := by rw [hterms]; rfl
    refine ⟨rule, ?_, Rule.isOrderRule_of_appliesTo happlies, ?_, ?_, ?_⟩
    · rw [hkept.carries.rule, Option.bind_some]
      exact hoffers.entered
    · rw [← hvalue]
      exact hkept.carries .value
    · rw [← hvalue]
      exact beq_iff_eq.1 (hkept.carries .valueType)
    · rw [hkept.eq]
      exact hwins.largest.amount_eq

/-- Without an order promotion nothing is announced. -/
theorem Basket.Settled.unannounced (h : basket.Settled shipping book now settled)
    (hcode : basket.voucherCode = none) (hnone : settled.orderPromotions = []) :
    settled.discount.isNone ∧
      (basket.discount = .none basket.currency → settled.discount = basket.discount) := by
  obtain ⟨-, prices, winner, -, hsettles⟩ := h
  cases winner with
  | none =>
    generalize settled.lines = lines at hsettles
    obtain rfl : settled = _ := hsettles
    constructor
    · have hshown := discount_cleared (withBasePrices prices { basket with lines })
      rwa [if_neg] at hshown
      simp [withBasePrices, hcode]
    · intro hdiscount
      rw [cleared]
      split
      · exact hdiscount.symm
      · rfl
  | some terms =>
    obtain ⟨kept, hkept⟩ := hsettles
    rw [hkept.orderPromotions] at hnone
    contradiction

end Baskets

/-! ## Orders -/

namespace Order

variable {order order' : Order} {ledger ledger' : Ledger} {rest : List DiscountRecord}
  {promotions : Promotions} {vouchers : Vouchers} {now : Instant} {report : SyncReport}

/-- Without an order promotion, nothing is shown and nothing is taken off the subtotal. With one,
the subtotal lost what the record notes, which is what the value of the rule takes off it. The order
shows the same amount if the rule gives a discount on the subtotal, and nothing if it gives a gift
and its value is not below zero. -/
structure Announced (book : Promotions) (order : Order) : Prop where
  one : order.orderPromotions.length ≤ 1
  unpromoted : order.orderPromotions = [] →
    order.discount.isNone ∧ order.subtotal = order.baseSubtotal
  promoted : ∀ record ∈ order.orderPromotions, ∃ rule predicate reward,
    record.rule.bind book.rules.get? = some rule ∧ rule.target = .order predicate reward ∧
    order.baseSubtotal.sub order.subtotal = .ok record.amount ∧
    rule.value.amountOff order.baseSubtotal = .ok record.amount ∧
    match reward with
    | .subtotalDiscount => order.discount.amount = record.amount
    | .gift => 0 ≤ rule.value.value.mantissa → order.discount.amount = .zero order.currency

/-- The subtotal of an order whose only record is that of an order promotion loses what its value
takes off, and the record notes it. -/
theorem exists_amountOff_of_applyDiscounts_eq_ok {record : DiscountRecord} {value : DiscountValue}
    {prices : OrderPrices} (hdiscounts : order.discounts = [record])
    (hkind : record.kind = .orderPromotion) (hvalue : record.value.sameValue value.value)
    (htype : record.valueType = value.valueType)
    (h : (applyDiscounts vouchers true).runOn (order, ledger) = (.ok prices, (order', ledger'))) :
    ∃ undiscounted amount, order.toBasket.subtotal = .ok undiscounted ∧
      value.amountOff undiscounted = .ok amount ∧
      undiscounted.sub order'.subtotal = .ok amount ∧
      order'.discounts = [{ record with amount }] := by
  have hne : record.kind ≠ .promotion := by simp [hkind]
  obtain ⟨undiscounted, amount, hundiscounted, hafter, hlost, hnoted, -⟩ :=
    exists_after_of_applyDiscounts_eq_ok hdiscounts hne h
  rw [OrderPrices.after, hkind, OrderPrices.onSubtotal_eq_ok] at hafter
  obtain ⟨hprice, hshipping⟩ := hafter
  obtain ⟨-, hcurrency, hsame, rfl⟩ := OrderPrices.lostTo_eq_ok.1 hlost
  simp only at hprice hshipping hcurrency hsame hnoted
  rw [hshipping, Int.sub_self, Int.zero_add, hsame] at hnoted
  refine ⟨undiscounted, _, hundiscounted, ?_, Money.sub_eq_ok.2 ⟨hcurrency, rfl⟩, hnoted⟩
  refine DiscountValue.amountOff_eq_ok.2 ⟨order'.subtotal, ?_, rfl⟩
  rw [DiscountValue.apply, ← discountedPrice_congr hvalue, ← htype,
    Basket.currency_subtotal hundiscounted]
  exact hprice

/-- An order without records is charged its base subtotal. -/
theorem announced_of_discounts_eq_nil {prices : OrderPrices} (book : Promotions)
    (hbase : order.toBasket.subtotal = .ok order.baseSubtotal) (hnone : order.discount.isNone)
    (hdiscounts : order.discounts = [])
    (h : (applyDiscounts vouchers true).runOn (order, ledger) = (.ok prices, (order', ledger'))) :
    order'.Announced book := by
  obtain ⟨undiscounted, updates, hundiscounted, hrecords, -⟩ :=
    priceRecords_of_applyDiscounts_eq_ok h
  obtain rfl := Except.ok.inj (hbase.symm.trans hundiscounted)
  rw [hdiscounts] at hrecords
  obtain ⟨hprices, -, hnil⟩ := priceRecords_nil_eq_ok.1 hrecords
  have hops : order'.orderPromotions = [] := by rw [Basket.orderPromotions, hnil]; rfl
  have heq := (charged_applyDiscounts h).eq
  refine ⟨by simp [hops], fun _ => ⟨?_, ?_⟩, by simp [hops]⟩
  · rw [heq]
    exact hnone
  · rw [show order'.subtotal = order.baseSubtotal from congrArg OrderPrices.subtotal hprices, heq]

/-- An order whose only record is that of the rule that it announces. -/
theorem announced_of_discounts_eq_singleton {prices : OrderPrices} {book : Promotions}
    {record : DiscountRecord} {rule : Rule}
    (hbase : order.toBasket.subtotal = .ok order.baseSubtotal)
    (hrule : order.toBasket.Announces book record rule) (hkind : record.kind = .orderPromotion)
    (hdiscounts : order.discounts = [record])
    (h : (applyDiscounts vouchers true).runOn (order, ledger) = (.ok prices, (order', ledger'))) :
    order'.Announced book := by
  obtain ⟨undiscounted, amount, hundiscounted, hamount, hlost, hnoted⟩ :=
    exists_amountOff_of_applyDiscounts_eq_ok hdiscounts hkind hrule.value hrule.valueType h
  obtain rfl := Except.ok.inj (hbase.symm.trans hundiscounted)
  have hops : order'.orderPromotions = [{ record with amount }] := by
    rw [Basket.orderPromotions, hnoted]
    simp [hkind]
  have heq := (charged_applyDiscounts h).eq
  have hbase' : order'.baseSubtotal = order.baseSubtotal := by rw [heq]
  have hshown : order'.discount = order.discount := by rw [heq]
  have hcurrency : order'.currency = order.currency := by rw [heq]
  refine ⟨by simp [hops], by simp [hops], ?_⟩
  rw [hops, List.forall_mem_singleton, hbase', hshown, hcurrency]
  have hreward := hrule.reward
  cases htarget : rule.target with
  | catalogue predicate =>
    have horder := hrule.isOrderRule
    rw [Rule.isOrderRule, htarget] at horder
    contradiction
  | order predicate reward =>
    refine ⟨rule, predicate, reward, hrule.entered, htarget, hlost, hamount, ?_⟩
    rw [Rule.reward, htarget] at hreward
    cases reward with
    | subtotalDiscount => exact Except.ok.inj (hreward.symm.trans hamount)
    | gift => exact fun hvalue => DiscountValue.amountOff_zero hvalue hreward

/-- Without a voucher code and without records of vouchers or of the staff, an order is charged for
its order promotion what the record says. -/
theorem announced_reconcile (hheld : order.toBasket.HeldIn ledger rest)
    (hregular : order.toBasket.Regular) (hcode : order.voucherCode = none)
    (hothers : order.otherDiscounts = [])
    (h : (reconcile promotions vouchers now).runOn (order, ledger) =
      (.ok report, (order', ledger'))) :
    order'.Announced promotions ∧
      (order.discount = .none order.currency → order'.orderPromotions = [] →
        order'.discount = order.discount) := by
  obtain ⟨lines, settled, ledger₁, prices, charged, -, hsettled, hregular', -, hdiscounts, -,
    rfl⟩ := exists_settled hheld hregular h
  obtain ⟨hbase, -⟩ := hsettled.basePrices
  have hcharged := charged_applyDiscounts hdiscounts
  have hsplit : settled.discounts = settled.orderPromotions := by
    have hnone : settled.otherDiscounts = [] := hsettled.otherDiscounts_eq.trans hothers
    have hsplit := hregular'.discounts_eq
    rwa [hnone, List.nil_append] at hsplit
  have hkinds : ∀ record ∈ settled.discounts, record.kind = .orderPromotion := by
    intro record hrecord
    rw [hsplit] at hrecord
    exact beq_iff_eq.1 (List.mem_filter.1 hrecord).2
  -- No record is of a voucher, so the order shows what the promotions left it to show.
  have hshown : charged.shown vouchers = charged := by
    apply shown_of_forall_kind_ne
    intro record hrecord hvoucher
    obtain ⟨source, hsource, hsame⟩ := exists_left_of_forall₂ hcharged.discounts hrecord
    have hkind := hkinds source hsource
    rw [← hsame.kind, hvoucher] at hkind
    contradiction
  rw [hshown]
  rcases hlist : settled.orderPromotions with _ | ⟨record, others⟩
  · obtain ⟨hnone, hkept⟩ := hsettled.unannounced hcode hlist
    refine ⟨announced_of_discounts_eq_nil promotions hbase hnone (hsplit.trans hlist) hdiscounts,
      fun hdiscount _ => ?_⟩
    rw [hcharged.eq]
    exact hkept hdiscount
  · obtain rfl : others = [] := by simpa [hlist] using hregular'.one
    have hrecord : record ∈ settled.orderPromotions := hlist ▸ List.mem_cons_self
    obtain ⟨rule, hrule⟩ := hsettled.announces hrecord
    refine ⟨announced_of_discounts_eq_singleton hbase hrule (hkinds record (hsplit ▸ hrecord))
      (hsplit.trans hlist) hdiscounts, fun _ hnone => ?_⟩
    have hlength := hcharged.orderPromotions.length_eq
    rw [hnone] at hlength
    simp [hlist] at hlength

end Order

/-! ## Assembled scenarios -/

/-- Without a voucher code and without a record of the staff, an order has no records but those of
order promotions. -/
theorem Basket.otherDiscounts_eq_nil {basket : Basket} (hregular : basket.Regular)
    (hnoted : basket.VoucherNoted) (hcode : basket.voucherCode = none)
    (hmanual : ∀ record ∈ basket.discounts, record.kind ≠ .manual) :
    basket.otherDiscounts = [] := by
  rw [otherDiscounts, List.filter_eq_nil_iff]
  intro record hrecord
  cases hkind : record.kind with
  | promotion => exact absurd hkind (hregular.kinds record hrecord)
  | orderPromotion => decide
  | voucher =>
    have hsome := hnoted.2 ⟨record, hrecord, hkind⟩
    rw [hcode] at hsome
    contradiction
  | manual => exact absurd hkind (hmanual record hrecord)

namespace Assembly

variable {a : Assembly} {times : List Instant} {now : Instant} {scenario : Scenario}

/-- No discount is shown before a scenario is reconciled. -/
theorem invariant_unshown :
    Invariant fun a => ∀ basket ∈ a.scenario.baskets, basket.discount = .none basket.currency where
  empty := List.forall_mem_nil _
  sameSales hsame hshown := by
    rw [Scenario.baskets, hsame.checkouts, hsame.orders]
    exact hshown
  checkout h hshown := by
    obtain ⟨_, _, _, rfl, hopens⟩ := exists_of_addCheckout h
    simp only [Scenario.baskets, List.map_append, List.map_singleton, List.forall_mem_append,
      List.forall_mem_singleton] at hshown ⊢
    exact ⟨⟨hshown.1, hopens.discount⟩, hshown.2⟩
  order h hshown := by
    obtain ⟨_, _, _, _, rfl, -, hplaces⟩ := exists_of_addOrder h
    simp only [Scenario.baskets, List.map_append, List.map_singleton, List.forall_mem_append,
      List.forall_mem_singleton] at hshown ⊢
    exact ⟨hshown.1, hshown.2, hplaces.discount⟩

/-- Whenever a scenario is reconciled, the subtotals of orders without voucher codes and without
discounts of the staff lose what the records of their order promotions note. What the orders show is
the same for discounts on the subtotal, and nothing for gifts. -/
theorem Loaded.announced_of_run (h : a.Loaded)
    (hrun : Scenario.Run a.scenario (times ++ [now]) scenario) :
    ∀ order ∈ scenario.orders, order.2.voucherCode = none →
      (∀ record ∈ order.2.discounts, record.kind ≠ .manual) →
      order.2.Announced scenario.promotions ∧
        (times = [] → order.2.orderPromotions = [] →
          order.2.discount = .none order.2.currency) := by
  intro order horder hcode hmanual
  obtain ⟨earlier, hearlier, hreconcile⟩ := Scenario.run_concat_iff.1 hrun
  have hheld := hearlier.held h.held
  obtain ⟨-, -, horders⟩ := hheld.turns hreconcile
  obtain ⟨source, hsource, -, hturns⟩ := exists_left_of_forall₂ horders horder
  have hmine := hearlier.regular h.held h.regular source.2.toBasket
    (List.mem_append_right _ (List.mem_map_of_mem hsource))
  have hsame := hturns.sameDeal hmine
  have hothers : source.2.otherDiscounts = [] := by
    have hnone : order.2.otherDiscounts = [] :=
      Basket.otherDiscounts_eq_nil (hrun.regular h.held h.regular order.2.toBasket
        (List.mem_append_right _ (List.mem_map_of_mem horder)))
        (hrun.voucherNoted h.held h.regular h.voucherNoted order horder) hcode hmanual
    have hlength := hsame.others.length_eq
    rw [hnone] at hlength
    exact List.length_eq_zero_iff.1 hlength
  obtain ⟨_, _, _, _, _, -, hheldIn, hturn⟩ := hturns
  obtain ⟨hannounced, hunshown⟩ := Order.announced_reconcile hheldIn hmine
    (hsame.voucherCode.symm.trans hcode) hothers hturn
  rw [Scenario.promotions_of_reconcile_eq_ok hreconcile]
  refine ⟨hannounced, fun htimes hnone => ?_⟩
  subst htimes
  obtain rfl := Scenario.run_nil_iff.1 hearlier
  have hfirst := h.invariant invariant_unshown source.2.toBasket
    (List.mem_append_right _ (List.mem_map_of_mem hsource))
  rw [hunshown hfirst hnone, hfirst, hsame.currency]

/-- The bookshop in spring, when a rule with a tenth as its value gives a reward to every order. -/
def springShop (reward : String) : ManifestKind → Except LoadError Document
  | .promotions => .ok <| .map [("promotions", .map [("spring", .map [
      ("id", .text "00000000-0000-0000-0000-000000000001"),
      ("start", .text "2024-01-01T00:00:00Z"),
      ("rules", .list [.map [
        ("channels", .list [.text "uk"]),
        ("order", .map []),
        ("reward_type", .text reward),
        ("reward_value_type", .text "percentage"),
        ("reward_value", .text "10")]])])])]
  | .orders => .ok <| .map [("orders", .map [("first", .map [
      ("channel", .text "uk"),
      ("shipping_method", .text "post"),
      ("lines", .list [.map [("variant", .text "paperback"), ("quantity", .number "2")]])])])]
  | kind => bookshop kind

/-- A tenth off the subtotal is announced and charged. -/
theorem announced_springShop : ∃ a scenario, ofSet (springShop "subtotal_discount") = .ok a ∧
    Scenario.Run a.scenario [⟨1800000000000000000⟩] scenario ∧
    scenario.orders.map (fun order => (order.2.discount.amount, order.2.baseSubtotal,
      order.2.subtotal)) = [(⟨160, .gbp⟩, ⟨1600, .gbp⟩, ⟨1440, .gbp⟩)] ∧
    ∀ order ∈ scenario.orders, order.2.Announced scenario.promotions := by
  have hcomputed : (replay? (springShop "subtotal_discount") [⟨1800000000000000000⟩]).map
      (fun (_, scenario) => (scenario.orders.map fun order => (order.2.discount.amount,
          order.2.baseSubtotal, order.2.subtotal),
        scenario.orders.all fun order => order.2.voucherCode.isNone &&
          order.2.discounts.all (·.kind != .manual))) =
      some ([(⟨160, .gbp⟩, ⟨1600, .gbp⟩, ⟨1440, .gbp⟩)], true) := by
    decide +kernel
  obtain ⟨⟨a, scenario⟩, hreplay, hshown⟩ := Option.map_eq_some_iff.1 hcomputed
  obtain ⟨hload, hrun⟩ := replay?_eq_some.1 hreplay
  obtain ⟨hamounts, hplain⟩ := Prod.mk.inj hshown
  refine ⟨a, scenario, hload, hrun, hamounts, fun order horder => ?_⟩
  have hplain := List.all_eq_true.1 hplain order horder
  rw [Bool.and_eq_true, List.all_eq_true, Option.isNone_iff_eq_none] at hplain
  have hreconcile := Scenario.run_singleton_iff.1 hrun
  exact (Loaded.announced_of_run (loaded_ofSet hload) (Scenario.Run.nil.snoc hreconcile) order
    horder hplain.1 fun record hrecord => by simpa using hplain.2 record hrecord).1

/-- A gift is announced as nothing, and a tenth is taken off the subtotal. -/
theorem gift_charged : ∃ a scenario, ofSet (springShop "gift") = .ok a ∧
    (Scenario.reconcile ⟨1800000000000000000⟩).runOn a.scenario = (.ok (), scenario) ∧
    scenario.orders.map (fun order => (order.2.voucherCode, order.2.discounts.map (·.kind))) =
      [(none, [.orderPromotion])] ∧
    scenario.orders.map (fun order => (order.2.discount.amount, order.2.baseSubtotal,
      order.2.subtotal)) = [(⟨0, .gbp⟩, ⟨1600, .gbp⟩, ⟨1440, .gbp⟩)] := by
  have hcomputed : (replay? (springShop "gift") [⟨1800000000000000000⟩]).map
      (fun (_, scenario) => (scenario.orders.map fun order =>
          (order.2.voucherCode, order.2.discounts.map (·.kind)),
        scenario.orders.map fun order => (order.2.discount.amount, order.2.baseSubtotal,
          order.2.subtotal))) =
      some ([(none, [.orderPromotion])], [(⟨0, .gbp⟩, ⟨1600, .gbp⟩, ⟨1440, .gbp⟩)]) := by
    decide +kernel
  obtain ⟨⟨a, scenario⟩, hreplay, hshown⟩ := Option.map_eq_some_iff.1 hcomputed
  obtain ⟨hload, hrun⟩ := replay?_eq_some.1 hreplay
  obtain ⟨hplain, hamounts⟩ := Prod.mk.inj hshown
  exact ⟨a, scenario, hload, Scenario.run_singleton_iff.1 hrun, hplain, hamounts⟩

end Assembly

end Retail
