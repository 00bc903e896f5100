import Retail.Proofs.History.Sales
import Retail.Proofs.Run

/-!
# Scenarios with another history

Where no checkout has a voucher code, a scenario that is reconciled any number of times is alike to
one that is reconciled once, at the last of the times.

## Main definitions

* `Scenario.SameDeal`: scenarios that differ at most in what promotions made of them
* `Scenario.Alike`: scenarios that are the same up to keys and forms

## Main results

* `Scenario.Run.sameDeal`: what any number of reconciliations keeps
* `Scenario.Run.alike`: what does not depend on the earlier ones
-/

namespace Retail

namespace Scenario

variable {start scenario scenario' other third once : Scenario} {now : Instant}
  {times : List Instant} {u : Unit}

/-- The scenarios differ at most in what promotions made of them. -/
structure SameDeal (scenario other : Scenario) : Prop where
  eq : other = { scenario with
    ledger := other.ledger, checkouts := other.checkouts, orders := other.orders }
  checkouts : List.Forall₂ (fun before after => after.1 = before.1 ∧ before.2.SameDeal after.2)
    scenario.checkouts other.checkouts
  orders : List.Forall₂ (fun before after => after.1 = before.1 ∧ before.2.SameDeal after.2)
    scenario.orders other.orders

theorem SameDeal.refl (scenario : Scenario) : scenario.SameDeal scenario :=
  ⟨rfl, List.forall₂_same.2 fun checkout _ => ⟨rfl, .refl checkout.2⟩,
    List.forall₂_same.2 fun order _ => ⟨rfl, .refl order.2⟩⟩

theorem SameDeal.trans (h : scenario.SameDeal other) (h' : other.SameDeal third) :
    scenario.SameDeal third := by
  refine ⟨?_, ?_, ?_⟩
  · rw [h'.eq, h.eq]
  · exact forall₂_trans h.checkouts h'.checkouts fun _ _ _ ⟨hname, hdeal⟩ ⟨hname', hdeal'⟩ =>
      ⟨hname'.trans hname, hdeal.trans hdeal'⟩
  · exact forall₂_trans h.orders h'.orders fun _ _ _ ⟨hname, hdeal⟩ ⟨hname', hdeal'⟩ =>
      ⟨hname'.trans hname, hdeal.trans hdeal'⟩

/-- The scenarios are the same, and their records say the same. -/
structure Alike (scenario other : Scenario) : Prop where
  eq : other = { scenario with
    ledger := other.ledger, checkouts := other.checkouts, orders := other.orders }
  checkouts : List.Forall₂ (fun one other => other.1 = one.1 ∧ one.2.Alike other.2)
    scenario.checkouts other.checkouts
  orders : List.Forall₂ (fun one other => other.1 = one.1 ∧ one.2.Alike other.2)
    scenario.orders other.orders

/-! ## One target -/

theorem TurnsCheckout.alike {checkout other checkout' other' : Checkout}
    (h : scenario.TurnsCheckout now checkout checkout')
    (h' : scenario.TurnsCheckout now other other') (hdeal : checkout.SameDeal other)
    (hcode : checkout.voucherCode = none) (hregular : checkout.toBasket.Regular)
    (hregular' : other.toBasket.Regular) : checkout'.Alike other' := by
  obtain ⟨channel, _, _, _, _, hchannel, hheld, hreconcile⟩ := h
  obtain ⟨channel', _, _, _, _, hchannel', hheld', hreconcile'⟩ := h'
  rw [hdeal.channel] at hchannel'
  obtain rfl : channel = channel' := Option.some.inj (hchannel.symm.trans hchannel')
  exact Checkout.alike_reconcile hdeal hcode hheld hheld' hregular hregular' hreconcile hreconcile'

theorem TurnsOrder.alike {order other order' other' : Order}
    (h : scenario.TurnsOrder now order order') (h' : scenario.TurnsOrder now other other')
    (hdeal : order.SameDeal other) (hnoted : order.toBasket.VoucherNoted)
    (hregular : order.toBasket.Regular) (hregular' : other.toBasket.Regular) :
    order'.Alike other' := by
  obtain ⟨_, _, _, _, _, -, hheld, hreconcile⟩ := h
  obtain ⟨_, _, _, _, _, -, hheld', hreconcile'⟩ := h'
  exact Order.alike_reconcile hdeal hnoted hheld hheld' hregular hregular' hreconcile hreconcile'

/-! ## Any number of reconciliations -/

/-- A reconciliation changes what promotions made of checkouts without voucher codes, and of
orders. -/
theorem Held.sameDeal (hheld : scenario.Held)
    (hregular : ∀ basket ∈ scenario.baskets, basket.Regular)
    (hcodes : ∀ checkout ∈ scenario.checkouts, checkout.2.voucherCode = none)
    (h : (Scenario.reconcile now).runOn scenario = (.ok u, scenario')) :
    scenario.SameDeal scenario' := by
  obtain ⟨-, hcheckouts, -⟩ := hheld.turns h
  refine ⟨eq_of_reconcile_eq_ok h, ?_, hheld.sameDeal_orders hregular h⟩
  rw [baskets, List.forall_mem_append, List.forall_mem_map] at hregular
  exact forall₂_imp_of_mem hcheckouts fun checkout hcheckout _ _ ⟨hname, hturns⟩ =>
    ⟨hname, hturns.sameDeal (hregular.1 checkout hcheckout) (hcodes checkout hcheckout)⟩

/-- Where no checkout has a voucher code there is none in a scenario that was reconciled. -/
theorem SameDeal.codes (h : scenario.SameDeal other)
    (hcodes : ∀ checkout ∈ scenario.checkouts, checkout.2.voucherCode = none) :
    ∀ checkout ∈ other.checkouts, checkout.2.voucherCode = none := by
  intro checkout hcheckout
  obtain ⟨source, hsource, -, hdeal⟩ := exists_left_of_forall₂ h.checkouts hcheckout
  exact hdeal.voucherCode.trans (hcodes source hsource)

theorem Run.sameDeal (h : Run start times scenario) (hheld : start.Held)
    (hregular : ∀ basket ∈ start.baskets, basket.Regular)
    (hcodes : ∀ checkout ∈ start.checkouts, checkout.2.voucherCode = none) :
    start.SameDeal scenario := by
  induction h with
  | nil => exact .refl start
  | snoc hrun hreconcile ih =>
    exact ih.trans ((hrun.held hheld).sameDeal (hrun.regular hheld hregular) (ih.codes hcodes)
      hreconcile)

/-- A run comes to what its last reconciliation alone comes to. -/
theorem Run.alike (h : Run start (times ++ [now]) scenario) (hheld : start.Held)
    (hregular : ∀ basket ∈ start.baskets, basket.Regular)
    (hcodes : ∀ checkout ∈ start.checkouts, checkout.2.voucherCode = none)
    (hnoted : ∀ order ∈ start.orders, order.2.toBasket.VoucherNoted)
    (honce : (Scenario.reconcile now).runOn start = (.ok u, once)) : once.Alike scenario := by
  obtain ⟨earlier, hrun, hreconcile⟩ := run_concat_iff.1 h
  have hdeal := hrun.sameDeal hheld hregular hcodes
  have hregular' := hrun.regular hheld hregular
  obtain ⟨-, hcheckouts, horders⟩ := hheld.turns honce
  obtain ⟨-, hcheckouts', horders'⟩ := (hrun.held hheld).turns hreconcile
  rw [baskets, List.forall_mem_append, List.forall_mem_map,
    List.forall_mem_map] at hregular hregular'
  have hcheckout : earlier.TurnsCheckout now = start.TurnsCheckout now := by
    rw [hdeal.eq]
    rfl
  have horder : earlier.TurnsOrder now = start.TurnsOrder now := by
    rw [hdeal.eq]
    rfl
  rw [hcheckout] at hcheckouts'
  rw [horder] at horders'
  refine ⟨?_, ?_, ?_⟩
  · obtain ⟨_, _, _, _, -, -, rfl⟩ := reconcile_eq_ok.1 honce
    obtain ⟨_, _, _, _, -, -, rfl⟩ := reconcile_eq_ok.1 hreconcile
    rw [hdeal.eq]
  · refine forall₂_square hdeal.checkouts hcheckouts hcheckouts' ?_
    intro checkout hmem other hmem' _ _ _ _ ⟨hname, hdeal⟩ ⟨honce, hturns⟩ ⟨hlast, hturns'⟩
    exact ⟨hlast.trans (hname.trans honce.symm), hturns.alike hturns' hdeal (hcodes checkout hmem)
      (hregular.1 checkout hmem) (hregular'.1 other hmem')⟩
  · refine forall₂_square hdeal.orders horders horders' ?_
    intro order hmem other hmem' _ _ _ _ ⟨hname, hdeal⟩ ⟨honce, hturns⟩ ⟨hlast, hturns'⟩
    exact ⟨hlast.trans (hname.trans honce.symm), hturns.alike hturns' hdeal (hnoted order hmem)
      (hregular.2 order hmem) (hregular'.2 other hmem')⟩

end Scenario

end Retail
