import Retail.Proofs.Again.Scenario
import Retail.Proofs.Fresh

/-!
# Assembled scenarios that are reconciled again

Whenever a scenario was last reconciled, doing so once more at that time changes nothing in it. What
may be written are the amounts of order promotions that stand behind other discounts of an order.

## Main results

* `Assembly.Loaded.runOn_reconcile_of_run`: the second reconciliation of an assembled scenario
* `Assembly.reconcile_again_writes`: one that writes
-/

namespace Retail

namespace Assembly

variable {a : Assembly} {times : List Instant} {now : Instant} {scenario : Scenario}

/-- Reconciling a second time succeeds and changes nothing. It writes the amounts of those order
promotions which do not note what is shown for them. -/
theorem Loaded.runOn_reconcile_of_run (h : a.Loaded)
    (hrun : Scenario.Run a.scenario (times ++ [now]) scenario) :
    (Scenario.reconcile now).runOn scenario =
      (.ok (), { scenario with ledger := scenario.ledger.noting scenario.rewrites }) := by
  obtain ⟨earlier, hearlier, hreconcile⟩ := Scenario.run_concat_iff.1 hrun
  exact (hearlier.held h.held).reconcile_again (hearlier.regular h.held h.regular)
    (hearlier.voucherNoted h.held h.regular h.voucherNoted) hreconcile

/-- The bookshop with a tenth off every order instead of its sale. -/
def tenthOff : ManifestKind → Except LoadError Document
  | .promotions => .ok <| .map [("promotions", .map [("tenth", .map [
      ("id", .text "00000000-0000-0000-0000-000000000001"),
      ("start", .text "2024-01-01T00:00:00Z"),
      ("rules", .list [.map [
        ("channels", .list [.text "uk"]),
        ("order", .map []),
        ("reward_value_type", .text "percentage"),
        ("reward_value", .text "10")]])])])]
  | kind => bookshop kind

/-- The tenth is taken off what the staff left, but found on the full price. -/
theorem runOn_reconcile_tenthOff : ∃ a scenario, ofSet tenthOff = .ok a ∧
    Scenario.Run a.scenario [⟨1800000000000000000⟩] scenario ∧
    (Scenario.reconcile ⟨1800000000000000000⟩).runOn scenario =
      (.ok (), { scenario with
        ledger := scenario.ledger.noting [.amountUpdate, .amountUpdate] }) := by
  have hcomputed : (match ofSet tenthOff with
      | .ok a => match (Scenario.reconcile ⟨1800000000000000000⟩).runOn a.scenario with
        | (.ok (), scenario) => scenario.rewrites
        | (.error _, _) => []
      | .error _ => []) = [.amountUpdate, .amountUpdate] := by
    decide +kernel
  split at hcomputed
  · rename_i a hload
    split at hcomputed
    · rename_i scenario hreconcile
      have hrun := Scenario.Run.snoc .nil hreconcile
      have hagain := Loaded.runOn_reconcile_of_run (loaded_ofSet hload) hrun
      rw [hcomputed] at hagain
      exact ⟨a, scenario, hload, hrun, hagain⟩
    · simp at hcomputed
  · simp at hcomputed

/-- So a second reconciliation may write. -/
theorem reconcile_again_writes : ∃ a scenario scenario', ofSet tenthOff = .ok a ∧
    (Scenario.reconcile ⟨1800000000000000000⟩).runOn a.scenario = (.ok (), scenario) ∧
    (Scenario.reconcile ⟨1800000000000000000⟩).runOn scenario = (.ok (), scenario') ∧
    scenario'.ledger.writes ≠ scenario.ledger.writes := by
  have hcomputed : (match ofSet tenthOff with
      | .ok a => match (Scenario.reconcile ⟨1800000000000000000⟩).runOn a.scenario with
        | (.ok (), scenario) =>
          match (Scenario.reconcile ⟨1800000000000000000⟩).runOn scenario with
          | (.ok (), scenario') => decide (scenario'.ledger.writes ≠ scenario.ledger.writes)
          | (.error _, _) => false
        | (.error _, _) => false
      | .error _ => false) = true := by
    decide +kernel
  split at hcomputed
  · rename_i a hload
    split at hcomputed
    · rename_i scenario hfirst
      split at hcomputed
      · rename_i scenario' hsecond
        exact ⟨a, scenario, scenario', hload, hfirst, hsecond, of_decide_eq_true hcomputed⟩
      · contradiction
    · contradiction
  · contradiction

end Assembly

end Retail
