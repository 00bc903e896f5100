import Retail.Proofs.Arithmetic.Checkout

/-!
# Failures of arithmetic: scenarios

Everything that a loaded scenario refers to is there, and stays there whenever the scenario is
reconciled. So nothing but a number that is too large, or a percentage without a value, ever keeps
it from being reconciled again.

## Main results

* `Scenario.Coherent.failsOnly_reconcile`: one reconciliation
* `Assembly.Loaded.failsOnly_reconcile_of_run`: any reconciliation
-/

namespace Retail

/-- Each target fails in one of some ways, if it fails, while the ledger holds it. -/
theorem failsOnly_forEachTarget {τ : Type} {step : Step (τ × Ledger) ReconcileError Unit}
    {targets : List (String × τ)} {ledger : Ledger} {rest : List DiscountRecord}
    {basketOf : τ → Basket} {P : ReconcileError → Prop}
    (hkeeps : ∀ {target target' : τ} {ledger ledger' : Ledger} {rest : List DiscountRecord},
      (basketOf target).HeldIn ledger rest →
      step.runOn (target, ledger) = (.ok (), (target', ledger')) →
      (basketOf target').HeldIn ledger' rest)
    (hfails : ∀ target ∈ targets, ∀ {ledger : Ledger} {rest : List DiscountRecord},
      (basketOf target.2).HeldIn ledger rest → Step.FailsOnly P step (target.2, ledger))
    (hheld : HeldTogether (targets.map fun target => basketOf target.2) ledger rest) :
    Step.FailsOnly P (Scenario.forEachTarget step) (targets, ledger) := by
  intro e after h
  induction targets generalizing ledger rest after with
  | nil => simp at h
  | cons first others ih =>
    obtain ⟨name, target⟩ := first
    rw [List.forall_mem_cons] at hfails
    rw [List.map_cons, ← List.singleton_append, HeldTogether.append_iff,
      HeldTogether.singleton_iff] at hheld
    rcases Scenario.exists_of_forEachTarget_cons_eq_error h with
      ⟨failed, hfirst⟩ | ⟨target', ledger₁, failed, hfirst, hothers⟩
    · exact hfails.1 hheld.2 e failed hfirst
    · have hheld' := HeldTogether.append_iff.2
        ⟨hheld.1, HeldTogether.singleton_iff.2 (hkeeps hheld.2 hfirst)⟩
      obtain ⟨-, haside⟩ := HeldTogether.append_iff.1 hheld'.comm
      exact ih hfails.2 haside _ hothers

namespace Scenario

variable {scenario : Scenario} {now : Instant}

theorem failsOnly_reconcileCheckout {checkout : Checkout} {ledger : Ledger}
    {rest : List DiscountRecord}
    (hcoherent : checkout.Coherent scenario.channels scenario.vouchers)
    (hheld : checkout.toBasket.HeldIn ledger rest) (hregular : checkout.toBasket.Regular) :
    Step.FailsOnly ReconcileError.IsArithmetic (scenario.reconcileCheckout now)
      (checkout, ledger) := by
  obtain ⟨channel, hchannel, -⟩ := hcoherent.channel
  refine Step.failsOnly_get_bind ?_
  simp only [hchannel]
  exact (Checkout.failsOnly_reconcile hcoherent hchannel hheld hregular).discard

theorem failsOnly_reconcileOrder {order : Order} {ledger : Ledger} {rest : List DiscountRecord}
    (hcoherent : order.Coherent scenario.channels scenario.vouchers)
    (hheld : order.toBasket.HeldIn ledger rest) (hregular : order.toBasket.Regular) :
    Step.FailsOnly ReconcileError.IsArithmetic (scenario.reconcileOrder now) (order, ledger) := by
  obtain ⟨channel, hchannel, -⟩ := hcoherent.channel
  refine Step.failsOnly_get_bind ?_
  simp only [hchannel]
  exact (Order.failsOnly_reconcile hcoherent hheld hregular).discard

theorem Coherent.failsOnly_reconcile (h : scenario.Coherent) (hheld : scenario.Held)
    (hregular : ∀ basket ∈ scenario.baskets, basket.Regular) :
    Step.FailsOnly ReconcileError.IsArithmetic (Scenario.reconcile now) scenario := by
  obtain ⟨hplaced, hcheckouts⟩ := HeldTogether.append_iff.1 hheld
  have hcheckout : Step.FailsOnly ReconcileError.IsArithmetic
      (forEachTarget (scenario.reconcileCheckout now)) (scenario.checkouts, scenario.ledger) :=
    failsOnly_forEachTarget (fun hheld hrun => (turns_reconcileCheckout hheld hrun).1)
      (fun checkout hmem _ _ hheld => failsOnly_reconcileCheckout (h.checkouts checkout hmem) hheld
        (hregular _ (mem_baskets_of_mem_checkouts hmem))) hcheckouts
  refine Step.failsOnly_get_bind (Step.FailsOnly.bind ?_ fun _ middle hstage => ?_)
  · exact Step.failsOnly_on hcheckout
  obtain ⟨⟨checkouts, ledger⟩, hrun, rfl⟩ := Step.runOn_on_eq_ok.1 hstage
  obtain ⟨hheld', -⟩ := heldTogether_forEachTarget turns_reconcileCheckout hcheckouts hrun
  obtain ⟨-, horders⟩ :=
    HeldTogether.append_iff.1 (HeldTogether.append_iff.2 ⟨hplaced, hheld'⟩).comm
  refine Step.failsOnly_on (failsOnly_forEachTarget
    (fun hheld hrun => (turns_reconcileOrder hheld hrun).1) ?_ horders)
  exact fun order hmem _ _ hheld => failsOnly_reconcileOrder (h.orders order hmem) hheld
    (hregular _ (mem_baskets_of_mem_orders hmem))

end Scenario

namespace Assembly

variable {a : Assembly}

/-- However often a scenario was reconciled, reconciling it once more either succeeds or fails on
arithmetic. -/
theorem Loaded.failsOnly_reconcile_of_run {times : List Instant} {scenario : Scenario}
    (h : a.Loaded) (hrun : Scenario.Run a.scenario times scenario) (now : Instant) :
    (∃ scenario', (Scenario.reconcile now).runOn scenario = (.ok (), scenario')) ∨
      ∃ e scenario', (Scenario.reconcile now).runOn scenario = (.error e, scenario') ∧
        e.IsArithmetic := by
  have hfails : (Scenario.reconcile now).FailsOnly ReconcileError.IsArithmetic scenario :=
    (h.coherent_of_run hrun).failsOnly_reconcile (hrun.held h.held) (hrun.regular h.held h.regular)
  rcases hreconcile : (Scenario.reconcile now).runOn scenario with ⟨e | u, scenario'⟩
  · exact .inr ⟨e, scenario', rfl, hfails e scenario' hreconcile⟩
  · exact .inl ⟨scenario', rfl⟩

/-- The bookshop, when an offer that starts in 2026 gives a fixed amount off every order that is
larger than an amount of money can be. -/
def windfall : ManifestKind → Except LoadError Document
  | .promotions => .ok <| .map [("promotions", .map [("windfall", .map [
      ("id", .text "00000000-0000-0000-0000-000000000001"),
      ("start", .text "2026-01-01T00:00:00Z"),
      ("rules", .list [.map [
        ("channels", .list [.text "uk"]),
        ("order", .map []),
        ("reward_value_type", .text "fixed"),
        ("reward_value", .text "100000000000000000000")]])])])]
  | kind => bookshop kind

/-- Before the offer starts the shop is reconciled, and afterwards it fails on arithmetic. -/
theorem windfall_overflows : ∃ a scenario scenario', ofSet windfall = .ok a ∧
    Scenario.Run a.scenario [⟨1700000000000000000⟩] scenario ∧
    (Scenario.reconcile ⟨1800000000000000000⟩).runOn scenario =
      (.error (.pricing .overflow), scenario') ∧
    ReconcileError.IsArithmetic (.pricing .overflow) := by
  have hcomputed : (replay? windfall [⟨1700000000000000000⟩]).map
      (fun (_, scenario) => ((Scenario.reconcile ⟨1800000000000000000⟩).runOn scenario).1) =
      some (.error (.pricing .overflow)) := by
    decide +kernel
  obtain ⟨⟨a, scenario⟩, hreplay, hfails⟩ := Option.map_eq_some_iff.1 hcomputed
  obtain ⟨hload, hrun⟩ := replay?_eq_some.1 hreplay
  rcases Loaded.failsOnly_reconcile_of_run (loaded_ofSet hload) hrun ⟨1800000000000000000⟩ with
    ⟨scenario', hreconcile⟩ | ⟨e, scenario', hreconcile, harithmetic⟩
  · simp [hreconcile] at hfails
  · simp only [hreconcile, Except.error.injEq] at hfails
    subst hfails
    exact ⟨a, scenario, scenario', hload, hrun, hreconcile, harithmetic⟩

end Assembly

end Retail
