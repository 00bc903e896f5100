import Retail.Proofs.Fresh
import Retail.Proofs.History.Scenario

/-!
# Assembled scenarios with another history

Where no checkout has a voucher code, what a scenario comes to does not depend on when it was
reconciled before.

## Main results

* `Assembly.Loaded.alike_of_run`: a run comes to what its last reconciliation comes to
* `Assembly.discount_of_run_differs`: only the discount that is shown may differ
-/

namespace Retail

namespace Assembly

variable {a : Assembly} {times : List Instant} {now : Instant} {scenario once : Scenario}

/-- A run comes to what its last reconciliation alone comes to, up to the keys of records and the
forms of their values. Where no discount is shown, its summary may differ. -/
theorem Loaded.alike_of_run (h : a.Loaded)
    (hcodes : ∀ checkout ∈ a.scenario.checkouts, checkout.2.voucherCode = none)
    (hrun : Scenario.Run a.scenario (times ++ [now]) scenario)
    (honce : (Scenario.reconcile now).runOn a.scenario = (.ok (), once)) : once.Alike scenario :=
  hrun.alike h.held h.regular hcodes h.voucherNoted honce

/-- The fair comes to the same whether or not it was visited during the sale. -/
theorem alike_fair : ∃ a scenario once, ofSet fair = .ok a ∧
    Scenario.Run a.scenario [⟨1710000000000000000⟩, ⟨1800000000000000000⟩] scenario ∧
    (Scenario.reconcile ⟨1800000000000000000⟩).runOn a.scenario = (.ok (), once) ∧
    once.Alike scenario := by
  have hcomputed : (match ofSet fair with
      | .ok a => match (Scenario.reconcile ⟨1710000000000000000⟩).runOn a.scenario with
        | (.ok (), middle) =>
          match (Scenario.reconcile ⟨1800000000000000000⟩).runOn middle with
          | (.ok (), _) =>
            match (Scenario.reconcile ⟨1800000000000000000⟩).runOn a.scenario with
            | (.ok (), _) =>
              a.scenario.checkouts.all fun checkout => checkout.2.voucherCode.isNone
            | (.error _, _) => false
          | (.error _, _) => false
        | (.error _, _) => false
      | .error _ => false) = true := by
    decide +kernel
  split at hcomputed
  · rename_i a hload
    split at hcomputed
    · rename_i middle hfirst
      split at hcomputed
      · rename_i scenario hsecond
        split at hcomputed
        · rename_i once honce
          have hrun := (Scenario.Run.nil.snoc hfirst).snoc hsecond
          refine ⟨a, scenario, once, hload, hrun, honce,
            Loaded.alike_of_run (loaded_ofSet hload) (fun checkout hcheckout => ?_) hrun honce⟩
          exact Option.isNone_iff_eq_none.1 (List.all_eq_true.1 hcomputed checkout hcheckout)
        · contradiction
      · contradiction
    · contradiction
  · contradiction

/-- A shop with a price of 64 bits that gives a tenth off every checkout in 2024, and a checkout of
two such lines. -/
def treasury : ManifestKind → Except LoadError Document
  | .catalogue => .ok <| .map [("products", .map [("novel", .map [
      ("name", .text "Novel"),
      ("variants", .map [("paperback", .map [
        ("name", .text "Paperback"),
        ("prices", .map [("uk", .text "92233720368547758.07 GBP")])])])])])]
  | .promotions => .ok <| .map [("promotions", .map [("tenth", .map [
      ("id", .text "00000000-0000-0000-0000-000000000001"),
      ("start", .text "2024-01-01T00:00:00Z"),
      ("end", .text "2025-01-01T00:00:00Z"),
      ("rules", .list [.map [
        ("channels", .list [.text "uk"]),
        ("order", .map []),
        ("reward_value_type", .text "percentage"),
        ("reward_value", .text "10")]])])])]
  | .orders => .ok <| .map [("checkouts", .map [("first", .map [
      ("channel", .text "uk"),
      ("lines", .list [
        .map [("variant", .text "paperback"), ("quantity", .number "1")],
        .map [("variant", .text "paperback"), ("quantity", .number "1")]])])])]
  | kind => fair kind

/-- The amount that was shown before the end of the sale has no minor units of 64 bits, so it passes
for none and stays. -/
theorem discount_of_run_differs : ∃ a middle scenario once, ofSet treasury = .ok a ∧
    (∀ checkout ∈ a.scenario.checkouts, checkout.2.voucherCode = none) ∧
    (Scenario.reconcile ⟨1710000000000000000⟩).runOn a.scenario = (.ok (), middle) ∧
    (Scenario.reconcile ⟨1800000000000000000⟩).runOn middle = (.ok (), scenario) ∧
    (Scenario.reconcile ⟨1800000000000000000⟩).runOn a.scenario = (.ok (), once) ∧
    once.checkouts.map (·.2.discount.amount) = [⟨0, .gbp⟩] ∧
    scenario.checkouts.map (·.2.discount.amount) = [⟨18446744073709551614, .gbp⟩] := by
  have hcomputed : (match ofSet treasury with
      | .ok a => match (Scenario.reconcile ⟨1710000000000000000⟩).runOn a.scenario with
        | (.ok (), middle) =>
          match (Scenario.reconcile ⟨1800000000000000000⟩).runOn middle with
          | (.ok (), scenario) =>
            match (Scenario.reconcile ⟨1800000000000000000⟩).runOn a.scenario with
            | (.ok (), once) =>
              (a.scenario.checkouts.all fun checkout => checkout.2.voucherCode.isNone,
                once.checkouts.map (·.2.discount.amount),
                scenario.checkouts.map (·.2.discount.amount))
            | (.error _, _) => (false, [], [])
          | (.error _, _) => (false, [], [])
        | (.error _, _) => (false, [], [])
      | .error _ => (false, [], [])) =
        (true, [⟨0, .gbp⟩], [⟨18446744073709551614, .gbp⟩]) := by
    decide +kernel
  split at hcomputed
  · rename_i a hload
    split at hcomputed
    · rename_i middle hfirst
      split at hcomputed
      · rename_i scenario hsecond
        split at hcomputed
        · rename_i once honce
          obtain ⟨hcodes, hamounts⟩ := Prod.mk.inj hcomputed
          obtain ⟨hamount, hamount'⟩ := Prod.mk.inj hamounts
          refine ⟨a, middle, scenario, once, hload, fun checkout hcheckout => ?_, hfirst, hsecond,
            honce, hamount, hamount'⟩
          exact Option.isNone_iff_eq_none.1 (List.all_eq_true.1 hcodes checkout hcheckout)
        · simp at hcomputed
      · simp at hcomputed
    · simp at hcomputed
  · simp at hcomputed

end Assembly

end Retail
