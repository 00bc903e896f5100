import Retail.Proofs.Again.Sales
import Retail.Proofs.Run

/-!
# Scenarios that are reconciled again

A scenario that was reconciled is reconciled again at the same time with success, and nothing of it
changes. All that may be noted are order promotions that were restored and overwritten.

## Main definitions

* `Scenario.rewrites`: what is written when a scenario is reconciled again

## Main results

* `Scenario.forEachTarget_again`: a step that changes no target
* `Scenario.Held.reconcile_again`: the second reconciliation
-/

namespace Retail

theorem HeldTogether.noting {baskets : List Basket} {ledger : Ledger} {rest : List DiscountRecord}
    {writes : List LedgerWrite} (h : HeldTogether baskets ledger rest) :
    HeldTogether baskets (ledger.noting writes) rest :=
  ⟨h.placed, h.holds⟩

namespace Scenario

/-! ## Each target in turn -/

/-- A step that changes no target and notes some writes for each does so for all of them. -/
theorem forEachTarget_again {τ : Type} {step : Step (τ × Ledger) ReconcileError Unit}
    {basketOf : τ → Basket} {writes : τ → List LedgerWrite} {targets : List (String × τ)}
    {ledger : Ledger} {rest : List DiscountRecord}
    (hstep : ∀ target ∈ targets, ∀ ledger rest, (basketOf target.2).HeldIn ledger rest →
      step.runOn (target.2, ledger) = (.ok (), (target.2, ledger.noting (writes target.2))))
    (hheld : HeldTogether (targets.map fun target => basketOf target.2) ledger rest) :
    (forEachTarget step).runOn (targets, ledger) =
      (.ok (), (targets, ledger.noting (targets.flatMap fun target => writes target.2))) := by
  -- Induction on the targets; what the first one notes does not change what the ledger holds.
  induction targets generalizing ledger rest with
  | nil => simp
  | cons first others ih =>
    obtain ⟨name, target⟩ := first
    rw [List.map_cons, ← List.singleton_append] at hheld
    rw [List.forall_mem_cons] at hstep
    have hfirst := HeldTogether.singleton_iff.1 (HeldTogether.append_iff.1 hheld).2
    have hothers := (HeldTogether.append_iff.1 hheld.comm).2
    refine forEachTarget_cons_eq_ok.2
      ⟨target, _, others, hstep.1 ledger _ hfirst, ?_, rfl⟩
    rw [ih hstep.2 hothers.noting, Ledger.noting_noting, List.flatMap_cons]

/-! ## The scenario -/

variable {scenario scenario' : Scenario} {now : Instant} {u : Unit}

/-- What is written when the scenario is reconciled again. -/
def rewrites (scenario : Scenario) : List LedgerWrite :=
  scenario.orders.flatMap fun order => order.2.rewrites

theorem TurnsCheckout.again {checkout checkout' : Checkout} {ledger : Ledger}
    {rest : List DiscountRecord} (h : scenario.TurnsCheckout now checkout checkout')
    (hregular : checkout.toBasket.Regular) (hheld : checkout'.toBasket.HeldIn ledger rest) :
    (scenario.reconcileCheckout now).runOn (checkout', ledger) =
      (.ok (), (checkout', ledger)) := by
  obtain ⟨_, hreconciled⟩ := h.reconciled hregular
  obtain ⟨channel, _, _, _, _, hchannel, hheld₁, hreconcile⟩ := h
  obtain ⟨report, hagain⟩ := Checkout.reconcile_again hheld₁ hregular hreconcile hheld
  refine reconcileCheckout_eq_ok.2 ⟨channel, report, ?_, hagain⟩
  rw [hreconciled.sameSale.channel]
  exact hchannel

theorem TurnsOrder.again {order order' : Order} {ledger : Ledger} {rest : List DiscountRecord}
    (h : scenario.TurnsOrder now order order') (hregular : order.toBasket.Regular)
    (hnoted : order.toBasket.VoucherNoted) (hheld : order'.toBasket.HeldIn ledger rest) :
    (scenario.reconcileOrder now).runOn (order', ledger) =
      (.ok (), (order', ledger.noting order'.rewrites)) := by
  obtain ⟨_, hreconciled⟩ := h.reconciled hregular
  obtain ⟨channel, _, _, _, _, hchannel, hheld₁, hreconcile⟩ := h
  obtain ⟨report, hagain⟩ := Order.reconcile_again hheld₁ hregular hnoted hreconcile hheld
  refine reconcileOrder_eq_ok.2 ⟨channel, report, ?_, hagain⟩
  rw [hreconciled.sameSale.channel]
  exact hchannel

/-- A scenario is reconciled again without any change, but what is written may be noted. -/
theorem Held.reconcile_again (hheld : scenario.Held)
    (hregular : ∀ basket ∈ scenario.baskets, basket.Regular)
    (hnoted : ∀ order ∈ scenario.orders, order.2.toBasket.VoucherNoted)
    (h : (Scenario.reconcile now).runOn scenario = (.ok u, scenario')) :
    (Scenario.reconcile now).runOn scenario' =
      (.ok (), { scenario' with ledger := scenario'.ledger.noting scenario'.rewrites }) := by
  obtain ⟨hheld', hcheckouts, horders⟩ := hheld.turns h
  rw [baskets, List.forall_mem_append, List.forall_mem_map, List.forall_mem_map] at hregular
  obtain ⟨checkouts, orders, ledger₁, ledger₂, -, -, rfl⟩ := reconcile_eq_ok.1 h
  have hsplit : HeldTogether (checkouts.map (·.2.toBasket) ++ orders.map (·.2.toBasket)) ledger₂
      [] := hheld'
  have hfirst : (forEachTarget (scenario.reconcileCheckout now)).runOn (checkouts, ledger₂) =
      (.ok (), (checkouts, ledger₂)) := by
    have hagain := @forEachTarget_again _ (scenario.reconcileCheckout now) (·.toBasket)
      (fun _ => []) checkouts ledger₂ _ ?_ (HeldTogether.append_iff.1 hsplit).2
    · rw [List.flatMap_eq_nil_iff.2 fun _ _ => rfl, Ledger.noting_nil] at hagain
      exact hagain
    · intro checkout hcheckout ledger rest hheld
      obtain ⟨source, hsource, -, hturns⟩ := exists_left_of_forall₂ hcheckouts hcheckout
      rw [Ledger.noting_nil]
      exact hturns.again (hregular.1 source hsource) hheld
  have hsecond : (forEachTarget (scenario.reconcileOrder now)).runOn (orders, ledger₂) =
      (.ok (), (orders, ledger₂.noting (orders.flatMap fun order => order.2.rewrites))) := by
    refine forEachTarget_again (fun order horder ledger rest hheld => ?_)
      (HeldTogether.append_iff.1 hsplit.comm).2
    obtain ⟨source, hsource, -, hturns⟩ := exists_left_of_forall₂ horders horder
    exact hturns.again (hregular.2 source hsource) (hnoted source hsource) hheld
  exact reconcile_eq_ok.2 ⟨checkouts, orders, ledger₂, _, hfirst, hsecond, rfl⟩

end Scenario

end Retail
