import Retail.Proofs.Deal
import Retail.Proofs.Scenario
import Retail.Proofs.UpToDate

/-!
# Runs of a scenario

Whenever and however often a scenario is reconciled, its baskets stay regular and sell the same, and
the last reconciliation alone decides which promotions they have.

## Main definitions

* `Scenario.UpToDate`: a scenario whose promotions are those that apply

## Main results

* `Scenario.Held.forall₂_reconciled`: one reconciliation, basket by basket
* `Scenario.Run.forall₂`: what each of them keeps, any number of them keeps
* `Scenario.Run.regular`, `Scenario.Run.sameSale`, `Scenario.Run.sameDeal_orders`: what is kept
* `Scenario.Run.upToDate`: what the last one decides
-/

namespace Retail

namespace Scenario

variable {start scenario scenario' : Scenario} {now : Instant} {times : List Instant} {u : Unit}

/-! ## One reconciliation -/

theorem TurnsCheckout.reconciled {checkout checkout' : Checkout}
    (h : scenario.TurnsCheckout now checkout checkout') (hregular : checkout.toBasket.Regular) :
    ∃ shipping, checkout.toBasket.Reconciled shipping scenario.promotions now
      checkout'.toBasket := by
  obtain ⟨_, _, _, _, _, -, hheld, hreconcile⟩ := h
  exact ⟨_, Checkout.reconciled hheld hregular hreconcile⟩

theorem TurnsOrder.reconciled {order order' : Order} (h : scenario.TurnsOrder now order order')
    (hregular : order.toBasket.Regular) :
    ∃ shipping, order.toBasket.Reconciled shipping scenario.promotions now order'.toBasket := by
  obtain ⟨_, _, _, _, _, -, hheld, hreconcile⟩ := h
  exact ⟨_, Order.reconciled hheld hregular hreconcile⟩

theorem TurnsCheckout.sameDeal {checkout checkout' : Checkout}
    (h : scenario.TurnsCheckout now checkout checkout') (hregular : checkout.toBasket.Regular)
    (hcode : checkout.voucherCode = none) : checkout.SameDeal checkout' := by
  obtain ⟨_, _, _, _, _, -, hheld, hreconcile⟩ := h
  exact Checkout.sameDeal_reconcile hcode hheld hregular hreconcile

theorem TurnsOrder.sameDeal {order order' : Order} (h : scenario.TurnsOrder now order order')
    (hregular : order.toBasket.Regular) : order.SameDeal order' := by
  obtain ⟨_, _, _, _, _, -, hheld, hreconcile⟩ := h
  exact Order.sameDeal_reconcile hheld hregular hreconcile

/-- Each basket is reconciled by itself. -/
theorem Held.forall₂_reconciled (hheld : scenario.Held)
    (hregular : ∀ basket ∈ scenario.baskets, basket.Regular)
    (h : (Scenario.reconcile now).runOn scenario = (.ok u, scenario')) :
    List.Forall₂ (fun basket basket' : Basket => basket.Regular ∧
        ∃ shipping, basket.Reconciled shipping scenario.promotions now basket')
      scenario.baskets scenario'.baskets := by
  obtain ⟨-, hcheckouts, horders⟩ := hheld.turns h
  have hbaskets : List.Forall₂ (fun basket basket' : Basket => basket.Regular →
      ∃ shipping, basket.Reconciled shipping scenario.promotions now basket')
      scenario.baskets scenario'.baskets := by
    refine List.rel_append ?_ ?_
    · rw [List.forall₂_map_left_iff, List.forall₂_map_right_iff]
      exact hcheckouts.imp fun _ _ hturns => hturns.2.reconciled
    · rw [List.forall₂_map_left_iff, List.forall₂_map_right_iff]
      exact horders.imp fun _ _ hturns => hturns.2.reconciled
  exact ((List.forall₂_and_left _ _).2 ⟨hregular, hbaskets⟩).imp
    fun _ _ ⟨hregular, hreconciled⟩ => ⟨hregular, hreconciled hregular⟩

/-- Reconciling keeps baskets regular. -/
theorem Held.regular (hheld : scenario.Held)
    (hregular : ∀ basket ∈ scenario.baskets, basket.Regular)
    (h : (Scenario.reconcile now).runOn scenario = (.ok u, scenario')) :
    ∀ basket ∈ scenario'.baskets, basket.Regular := by
  intro basket hbasket
  obtain ⟨source, -, hsource, shipping, hreconciled⟩ :=
    exists_left_of_forall₂ (hheld.forall₂_reconciled hregular h) hbasket
  exact hreconciled.regular hsource

/-- Reconciling changes the ledger, checkouts and orders. -/
theorem eq_of_reconcile_eq_ok (h : (reconcile now).runOn scenario = (.ok u, scenario')) :
    scenario' = { scenario with
      ledger := scenario'.ledger
      checkouts := scenario'.checkouts
      orders := scenario'.orders } := by
  obtain ⟨_, _, _, _, -, -, rfl⟩ := reconcile_eq_ok.1 h
  rfl

theorem promotions_of_reconcile_eq_ok (h : (reconcile now).runOn scenario = (.ok u, scenario')) :
    scenario'.promotions = scenario.promotions := by
  rw [eq_of_reconcile_eq_ok h]

/-! ## Any number of reconciliations -/

theorem Run.eq (h : Run start times scenario) :
    scenario = { start with
      ledger := scenario.ledger, checkouts := scenario.checkouts, orders := scenario.orders } := by
  induction h with
  | nil => rfl
  | snoc _ hreconcile ih => rw [eq_of_reconcile_eq_ok hreconcile, ih]

theorem Run.regular (h : Run start times scenario) (hheld : start.Held)
    (hregular : ∀ basket ∈ start.baskets, basket.Regular) :
    ∀ basket ∈ scenario.baskets, basket.Regular := by
  induction h with
  | nil => exact hregular
  | snoc hrun hreconcile ih => exact (hrun.held hheld).regular ih hreconcile

/-- What each reconciliation keeps of its targets, whichever these are, a run keeps. -/
theorem Run.forall₂ {τ : Type} {targets : Scenario → List τ} {R : τ → τ → Prop}
    (hrefl : ∀ target, R target target)
    (htrans : ∀ {target other third : τ}, R target other → R other third → R target third)
    (hstep : ∀ {scenario scenario' : Scenario} {now : Instant}, scenario.Held →
      (∀ basket ∈ scenario.baskets, basket.Regular) →
      (reconcile now).runOn scenario = (.ok (), scenario') →
      List.Forall₂ R (targets scenario) (targets scenario'))
    (h : Run start times scenario) (hheld : start.Held)
    (hregular : ∀ basket ∈ start.baskets, basket.Regular) :
    List.Forall₂ R (targets start) (targets scenario) := by
  induction h with
  | nil => exact List.forall₂_same.2 fun target _ => hrefl target
  | snoc hrun hreconcile ih =>
    exact forall₂_trans ih (hstep (hrun.held hheld) (hrun.regular hheld hregular) hreconcile)
      fun _ _ _ => htrans

theorem Run.sameSale (h : Run start times scenario) (hheld : start.Held)
    (hregular : ∀ basket ∈ start.baskets, basket.Regular) :
    List.Forall₂ Basket.SameSale start.baskets scenario.baskets := by
  refine h.forall₂ Basket.SameSale.refl Basket.SameSale.trans ?_ hheld hregular
  intro _ _ _ hheld hregular hreconcile
  exact (hheld.forall₂_reconciled hregular hreconcile).imp
    fun _ _ ⟨_, _, hreconciled⟩ => hreconciled.sameSale

/-- A reconciliation changes what promotions made of orders. -/
theorem Held.sameDeal_orders (hheld : scenario.Held)
    (hregular : ∀ basket ∈ scenario.baskets, basket.Regular)
    (h : (Scenario.reconcile now).runOn scenario = (.ok u, scenario')) :
    List.Forall₂ (fun before after => after.1 = before.1 ∧ before.2.SameDeal after.2)
      scenario.orders scenario'.orders := by
  obtain ⟨-, -, horders⟩ := hheld.turns h
  refine forall₂_imp_of_mem horders fun order horder _ _ ⟨hname, hturns⟩ => ⟨hname, ?_⟩
  exact hturns.sameDeal
    (hregular order.2.toBasket (List.mem_append_right _ (List.mem_map_of_mem horder)))

theorem Run.sameDeal_orders (h : Run start times scenario) (hheld : start.Held)
    (hregular : ∀ basket ∈ start.baskets, basket.Regular) :
    List.Forall₂ (fun before after => after.1 = before.1 ∧ before.2.SameDeal after.2)
      start.orders scenario.orders :=
  h.forall₂ (fun order => ⟨rfl, .refl order.2⟩)
    (fun ⟨hname, hdeal⟩ ⟨hname', hdeal'⟩ => ⟨hname'.trans hname, hdeal.trans hdeal'⟩)
    Held.sameDeal_orders hheld hregular

theorem Run.voucherNoted (h : Run start times scenario) (hheld : start.Held)
    (hregular : ∀ basket ∈ start.baskets, basket.Regular)
    (hnoted : ∀ order ∈ start.orders, order.2.toBasket.VoucherNoted) :
    ∀ order ∈ scenario.orders, order.2.toBasket.VoucherNoted := by
  intro order horder
  obtain ⟨source, hsource, -, hdeal⟩ :=
    exists_left_of_forall₂ (h.sameDeal_orders hheld hregular) horder
  exact hdeal.voucherNoted (hnoted source hsource)

theorem run_nil_iff : Run start [] scenario ↔ scenario = start := by
  constructor
  · intro h
    generalize hall : [] = all at h
    cases h with
    | nil => rfl
    | snoc => simp at hall
  · rintro rfl
    exact .nil

/-- The last reconciliation of several. -/
theorem run_concat_iff : Run start (times ++ [now]) scenario ↔
    ∃ earlier, Run start times earlier ∧ (reconcile now).runOn earlier = (.ok (), scenario) := by
  constructor
  · intro h
    generalize hall : times ++ [now] = all at h
    cases h with
    | nil => simp at hall
    | snoc hrun hreconcile =>
      obtain ⟨rfl, hnow⟩ := List.append_inj' hall rfl
      obtain rfl := List.singleton_inj.1 hnow
      exact ⟨_, hrun, hreconcile⟩
  · rintro ⟨earlier, hrun, hreconcile⟩
    exact hrun.snoc hreconcile

theorem run_singleton_iff :
    Run start [now] scenario ↔ (reconcile now).runOn start = (.ok (), scenario) := by
  rw [← List.nil_append [now], run_concat_iff]
  simp [run_nil_iff]

/-! ## Promotions that apply -/

/-- Records of promotions hang where they apply, and nowhere else; lines and baskets that lose
something to a promotion have one record of it. -/
structure UpToDate (now : Instant) (scenario : Scenario) : Prop where
  promotion : ∀ record ∈ scenario.ledger.toList, record.kind = .promotion →
    ∃ basket ∈ scenario.baskets, ∃ line ∈ basket.lines, record ∈ line.discounts ∧
      line.Grants scenario.promotions basket.channel now record
  line : ∀ basket ∈ scenario.baskets, ∀ line ∈ basket.lines, ∃ amount,
    line.catalogueDiscountAmount = .ok amount ∧ (amount.minor ≠ 0 →
      ∃ record ∈ scenario.ledger.toList, line.discounts.filter (·.kind == .promotion) = [record])
  orderPromotion : ∀ record ∈ scenario.ledger.toList, record.kind = .orderPromotion →
    ∃ basket ∈ scenario.baskets, record ∈ basket.discounts ∧ basket.voucherCode = none ∧
      ∃ key rule, record.rule = some key ∧ basket.Qualifies scenario.promotions now key rule
  basket : ∀ basket ∈ scenario.baskets, basket.voucherCode = none →
    (∃ key rule, basket.Qualifies scenario.promotions now key rule) →
      ∃ record ∈ scenario.ledger.toList,
        basket.discounts.filter (·.kind == .orderPromotion) = [record]

/-- What is known of the baskets is known of the ledger that holds them. -/
theorem Held.upToDate (hheld : scenario.Held)
    (hregular : ∀ basket ∈ scenario.baskets, basket.Regular)
    (h : ∀ basket ∈ scenario.baskets, basket.UpToDate scenario.promotions now) :
    scenario.UpToDate now := by
  -- A record of the ledger hangs on a basket or on one of its lines; its kind tells which.
  have hmem : ∀ record, record ∈ scenario.ledger.toList ↔ ∃ basket ∈ scenario.baskets,
      record ∈ basket.discounts ∨ ∃ line ∈ basket.lines, record ∈ line.discounts := by
    intro record
    have hholds := hheld.holds
    rw [List.append_nil] at hholds
    simp only [hholds.mem_iff, List.mem_flatMap, Basket.records, List.mem_append]
  constructor
  case promotion =>
    intro record hrecord hkind
    obtain ⟨basket, hbasket, hmine | ⟨line, hline, hmine⟩⟩ := (hmem record).1 hrecord
    · exact absurd hkind ((hregular basket hbasket).kinds record hmine)
    · exact ⟨basket, hbasket, line, hline, hmine,
        (((h basket hbasket).lines line hline).grants record hmine).2⟩
  case line =>
    intro basket hbasket line hline
    obtain ⟨hgrants, amount, hamount, hcarries⟩ := (h basket hbasket).lines line hline
    refine ⟨amount, hamount, fun hne => ?_⟩
    obtain ⟨record, hrecord⟩ := hcarries hne
    have hmine : record ∈ line.discounts := hrecord ▸ List.mem_cons_self
    refine ⟨record, (hmem record).2 ⟨basket, hbasket, .inr ⟨line, hline, hmine⟩⟩, ?_⟩
    rw [← hrecord, List.filter_eq_self]
    exact fun record hrecord => beq_iff_eq.2 (hgrants record hrecord).1
  case orderPromotion =>
    intro record hrecord hkind
    obtain ⟨basket, hbasket, hmine | ⟨line, hline, hmine⟩⟩ := (hmem record).1 hrecord
    · exact ⟨basket, hbasket, hmine, (h basket hbasket).qualifies record
        (List.mem_filter.2 ⟨hmine, beq_iff_eq.2 hkind⟩)⟩
    · have hline := (((h basket hbasket).lines line hline).grants record hmine).1
      rw [hkind] at hline
      contradiction
  case basket =>
    intro basket hbasket hcode hrule
    obtain ⟨record, hrecord⟩ := (h basket hbasket).carries hcode hrule
    have hmine : record ∈ basket.orderPromotions := hrecord ▸ List.mem_cons_self
    exact ⟨record, (hmem record).2 ⟨basket, hbasket, .inl (List.mem_filter.1 hmine).1⟩, hrecord⟩

/-- After a run the promotions are those that apply at its last time. -/
theorem Run.upToDate (h : Run start (times ++ [now]) scenario) (hheld : start.Held)
    (hregular : ∀ basket ∈ start.baskets, basket.Regular)
    (hlisted : ∀ basket ∈ start.baskets, ∀ line ∈ basket.lines,
      0 ≤ line.undiscountedUnitPrice.minor) :
    scenario.UpToDate now := by
  obtain ⟨earlier, hrun, hreconcile⟩ := run_concat_iff.1 h
  have hregular' := hrun.regular hheld hregular
  refine (h.held hheld).upToDate (h.regular hheld hregular) fun basket hbasket => ?_
  obtain ⟨middle, hmiddle, hmine, shipping, hreconciled⟩ :=
    exists_left_of_forall₂ ((hrun.held hheld).forall₂_reconciled hregular' hreconcile) hbasket
  have hlisted' : ∀ line ∈ middle.lines, 0 ≤ line.undiscountedUnitPrice.minor := by
    intro line hline
    obtain ⟨source, hsource, hsame⟩ := exists_left_of_forall₂ (hrun.sameSale hheld hregular) hmiddle
    obtain ⟨goods, hgoods, hline⟩ := exists_left_of_forall₂ hsame.lines hline
    rw [hline.undiscountedUnitPrice]
    exact hlisted source hsource goods hgoods
  rw [promotions_of_reconcile_eq_ok hreconcile]
  exact hreconciled.upToDate hmine hlisted'

end Scenario

end Retail
