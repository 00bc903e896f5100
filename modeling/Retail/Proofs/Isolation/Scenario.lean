import Retail.Proofs.Fresh
import Retail.Proofs.Isolation.Sales

/-!
# Scenarios whose targets do not interfere

Checkouts and orders share one ledger, and each of them is reconciled on what the ones before it
left there. What becomes of it does not depend on that: it comes out as in a scenario that holds it
alone, but for the keys of its records.

## Main definitions

* `Scenario.SameShop`: scenarios that may sell different things
* `Scenario.Alone`: a scenario with one target and its records
* `Scenario.Isolates`: a target that comes out the same wherever it is reconciled
* `Scenario.Isolated`: the same of all targets

## Main results

* `HeldTogether.exists_alone`: a ledger for one of the baskets
* `Scenario.TurnsCheckout.isolates`, `Scenario.TurnsOrder.isolates`: one target
* `Scenario.Held.isolated`: all targets
* `Assembly.Loaded.isolated_of_run`: at any time in the history of what is read
-/

namespace Retail

/-! ## Ledgers without the others -/

section Ledger

variable {ledger : Ledger} {basket : Basket} {baskets : List Basket}
  {records rest : List DiscountRecord}

/-- Without the records that stand aside the ledger holds the others. -/
theorem Ledger.Holds.without (hholds : ledger.Holds (records ++ rest)) :
    (ledger.without (rest.map (·.key))).Holds records := by
  have hswapped : ledger.Holds (rest ++ records) := hholds.perm List.perm_append_comm
  have hnodup := hswapped.nodup
  rw [List.map_append] at hnodup
  have hnone : rest.filter (!(rest.map (·.key)).contains ·.key) = [] := by
    have hfilter := @filter_keys_filter rest (fun _ => true) hnodup.of_append_left
    simpa using hfilter
  have hleft := hswapped.filter (fun _ hkey => hkey) (ledger.toList_without (rest.map (·.key)))
  rwa [hnone, List.nil_append] at hleft

namespace HeldTogether

theorem without (hheld : HeldTogether baskets ledger rest) :
    HeldTogether baskets (ledger.without (rest.map (·.key))) [] := by
  refine ⟨hheld.placed, ?_⟩
  rw [List.append_nil]
  exact hheld.holds.without

/-- One of the baskets is held alone by a ledger that has its records and no others. -/
theorem exists_alone (hheld : HeldTogether baskets ledger rest) (hbasket : basket ∈ baskets) :
    ∃ ledger', HeldTogether [basket] ledger' [] := by
  obtain ⟨before, after, rfl⟩ := List.append_of_mem hbasket
  have hfront : HeldTogether ([basket] ++ (before ++ after)) ledger rest :=
    hheld.perm List.perm_middle
  exact ⟨_, (append_iff.1 hfront).2.without⟩

end HeldTogether

end Ledger

namespace Scenario

variable {scenario scenario' other other' : Scenario} {now : Instant} {u : Unit}

/-- The scenarios have the same channels, promotions and vouchers. -/
structure SameShop (scenario other : Scenario) : Prop where
  channels : other.channels = scenario.channels
  promotions : other.promotions = scenario.promotions
  vouchers : other.vouchers = scenario.vouchers

section Targets

variable {τ : Type} (targets : Scenario → List (String × τ)) (same : τ → τ → Prop)

/-- The other scenario has nothing but the target, and its ledger nothing but the records of it. -/
structure Alone (scenario : Scenario) (target : String × τ) (lone : Scenario) : Prop where
  shop : scenario.SameShop lone
  targets : targets lone = [target]
  baskets : lone.baskets.length = 1
  held : lone.Held

/-- What becomes of the target when the scenario is reconciled becomes of it when it is reconciled
alone, and among any others. -/
structure Isolates (scenario : Scenario) (now : Instant) (before after : String × τ) : Prop where
  name : after.1 = before.1
  exists_alone : ∃ lone, Alone targets scenario before lone
  alone : ∀ {lone : Scenario} {name : String} {second : τ},
    Alone targets scenario (name, second) lone → same before.2 second →
      ∃ lone' second', (reconcile now).runOn lone = (.ok (), lone') ∧
        targets lone' = [(name, second')] ∧ same after.2 second'
  among : ∀ {other other' : Scenario}, scenario.SameShop other → other.Held →
    (reconcile now).runOn other = (.ok (), other') →
      List.Forall₂ (fun target target' => same before.2 target.2 → same after.2 target'.2)
        (targets other) (targets other')

end Targets

/-- No target of the scenario has an influence on another one. -/
structure Isolated (now : Instant) (scenario scenario' : Scenario) : Prop where
  checkouts : List.Forall₂ (Isolates checkouts Checkout.Rekeyed scenario now) scenario.checkouts
    scenario'.checkouts
  orders : List.Forall₂ (Isolates orders Order.Rekeyed scenario now) scenario.orders
    scenario'.orders

theorem forEachTarget_singleton {τ : Type} {step : Step (τ × Ledger) ReconcileError Unit}
    {name : String} {target target' : τ} {ledger ledger' : Ledger}
    (h : step.runOn (target, ledger) = (.ok (), (target', ledger'))) :
    (forEachTarget step).runOn ([(name, target)], ledger) =
      (.ok (), ([(name, target')], ledger')) :=
  forEachTarget_cons_eq_ok.2 ⟨target', ledger', [], h, runOn_forEachTarget_nil, rfl⟩

/-! ## Checkouts -/

theorem Held.exists_alone_checkout (hheld : scenario.Held) {checkout : String × Checkout}
    (hmem : checkout ∈ scenario.checkouts) : ∃ lone, Alone checkouts scenario checkout lone := by
  obtain ⟨ledger', hlone⟩ := HeldTogether.exists_alone hheld
    (List.mem_append_left _ (List.mem_map_of_mem hmem))
  exact ⟨{ scenario with checkouts := [checkout], orders := [], ledger := ledger' },
    ⟨rfl, rfl, rfl⟩, rfl, rfl, hlone⟩

/-- Where one checkout turns into another, so does one that is the same but for the keys, in any
scenario of the shop. -/
theorem TurnsCheckout.exists_reconcileCheckout {checkout checkout' second : Checkout}
    {ledger : Ledger} {rest : List DiscountRecord}
    (h : scenario.TurnsCheckout now checkout checkout') (hregular : checkout.toBasket.Regular)
    (hshop : scenario.SameShop other) (hsame : checkout.Rekeyed second)
    (hheld : second.toBasket.HeldIn ledger rest) :
    ∃ second' ledger', (other.reconcileCheckout now).runOn (second, ledger) =
      (.ok (), (second', ledger')) ∧ checkout'.Rekeyed second' := by
  obtain ⟨channel, _, _, _, _, hchannel, hmine, hreconcile⟩ := h
  obtain ⟨report, second', ledger', hsecond, hrekeyed⟩ :=
    hsame.exists_reconcile hregular hmine hheld hreconcile
  have hkey : second.channel = checkout.channel := by rw [hsame.eq]
  rw [← hshop.promotions, ← hshop.vouchers] at hsecond
  refine ⟨second', ledger', reconcileCheckout_eq_ok.2 ⟨channel, report, ?_, hsecond⟩, hrekeyed⟩
  rw [hshop.channels, hkey]
  exact hchannel

/-- Checkouts that are the same but for the keys turn into the same but for the keys. -/
theorem TurnsCheckout.rekeyed {checkout checkout' second second' : Checkout}
    (h : scenario.TurnsCheckout now checkout checkout')
    (h' : other.TurnsCheckout now second second') (hregular : checkout.toBasket.Regular)
    (hshop : scenario.SameShop other) (hsame : checkout.Rekeyed second) :
    checkout'.Rekeyed second' := by
  obtain ⟨channel, report, ledger, ledger', rest, hchannel, hheld, hreconcile⟩ := h'
  obtain ⟨again, ledger₂', hagain, hrekeyed⟩ :=
    h.exists_reconcileCheckout hregular hshop hsame hheld
  have hsecond : (other.reconcileCheckout now).runOn (second, ledger) =
      (.ok (), (second', ledger')) :=
    reconcileCheckout_eq_ok.2 ⟨channel, report, hchannel, hreconcile⟩
  obtain rfl : again = second' := (Prod.mk.inj (Prod.mk.inj (hagain.symm.trans hsecond)).2).1
  exact hrekeyed

theorem TurnsCheckout.isolates {before after : String × Checkout} (hname : after.1 = before.1)
    (h : scenario.TurnsCheckout now before.2 after.2) (hregular : before.2.toBasket.Regular)
    (halone : ∃ lone, Alone checkouts scenario before lone) :
    Isolates checkouts Checkout.Rekeyed scenario now before after := by
  refine ⟨hname, halone, ?_, ?_⟩
  · rintro lone name second ⟨hshop, hcheckouts, hlength, hheld⟩ hsame
    -- Alone, the checkout is all that the ledger holds, and its turn is the only one.
    have horders : lone.orders = [] := by
      rw [baskets, List.length_append, List.length_map, List.length_map, hcheckouts] at hlength
      exact List.length_eq_zero_iff.1 (Nat.add_eq_left.1 hlength)
    rw [Held, baskets, hcheckouts, horders] at hheld
    obtain ⟨second', ledger', hsecond, hrekeyed⟩ :=
      h.exists_reconcileCheckout hregular hshop hsame (HeldTogether.singleton_iff.1 hheld)
    refine ⟨{ lone with checkouts := [(name, second')], orders := [], ledger := ledger' }, second',
      reconcile_eq_ok.2 ⟨_, _, ledger', ledger', ?_, ?_, rfl⟩, rfl, hrekeyed⟩
    · rw [hcheckouts]
      exact forEachTarget_singleton hsecond
    · rw [horders]
      exact runOn_forEachTarget_nil
  · -- Among others, it has its turn while the ledger holds it besides their records.
    intro other other' hshop hheld hreconcile
    obtain ⟨-, hturns, -⟩ := hheld.turns hreconcile
    exact hturns.imp fun _ _ hturn hsame => h.rekeyed hturn.2 hregular hshop hsame

/-! ## Orders -/

theorem Held.exists_alone_order (hheld : scenario.Held) {order : String × Order}
    (hmem : order ∈ scenario.orders) : ∃ lone, Alone orders scenario order lone := by
  obtain ⟨ledger', hlone⟩ := HeldTogether.exists_alone hheld
    (List.mem_append_right _ (List.mem_map_of_mem hmem))
  exact ⟨{ scenario with checkouts := [], orders := [order], ledger := ledger' },
    ⟨rfl, rfl, rfl⟩, rfl, rfl, hlone⟩

/-- Where one order turns into another, so does one that is the same but for the keys, in any
scenario of the shop. -/
theorem TurnsOrder.exists_reconcileOrder {order order' second : Order} {ledger : Ledger}
    {rest : List DiscountRecord} (h : scenario.TurnsOrder now order order')
    (hregular : order.toBasket.Regular) (hshop : scenario.SameShop other)
    (hsame : order.Rekeyed second) (hheld : second.toBasket.HeldIn ledger rest) :
    ∃ second' ledger', (other.reconcileOrder now).runOn (second, ledger) =
      (.ok (), (second', ledger')) ∧ order'.Rekeyed second' := by
  obtain ⟨channel, _, _, _, _, hchannel, hmine, hreconcile⟩ := h
  obtain ⟨report, second', ledger', hsecond, hrekeyed⟩ :=
    hsame.exists_reconcile hregular hmine hheld hreconcile
  have hkey : second.channel = order.channel := by rw [hsame.eq]
  rw [← hshop.promotions, ← hshop.vouchers] at hsecond
  refine ⟨second', ledger', reconcileOrder_eq_ok.2 ⟨channel, report, ?_, hsecond⟩, hrekeyed⟩
  rw [hshop.channels, hkey]
  exact hchannel

/-- Orders that are the same but for the keys turn into the same but for the keys. -/
theorem TurnsOrder.rekeyed {order order' second second' : Order}
    (h : scenario.TurnsOrder now order order') (h' : other.TurnsOrder now second second')
    (hregular : order.toBasket.Regular) (hshop : scenario.SameShop other)
    (hsame : order.Rekeyed second) : order'.Rekeyed second' := by
  obtain ⟨channel, report, ledger, ledger', rest, hchannel, hheld, hreconcile⟩ := h'
  obtain ⟨again, ledger₂', hagain, hrekeyed⟩ :=
    h.exists_reconcileOrder hregular hshop hsame hheld
  have hsecond : (other.reconcileOrder now).runOn (second, ledger) =
      (.ok (), (second', ledger')) :=
    reconcileOrder_eq_ok.2 ⟨channel, report, hchannel, hreconcile⟩
  obtain rfl : again = second' := (Prod.mk.inj (Prod.mk.inj (hagain.symm.trans hsecond)).2).1
  exact hrekeyed

theorem TurnsOrder.isolates {before after : String × Order} (hname : after.1 = before.1)
    (h : scenario.TurnsOrder now before.2 after.2) (hregular : before.2.toBasket.Regular)
    (halone : ∃ lone, Alone orders scenario before lone) :
    Isolates orders Order.Rekeyed scenario now before after := by
  refine ⟨hname, halone, ?_, ?_⟩
  · rintro lone name second ⟨hshop, horders, hlength, hheld⟩ hsame
    have hcheckouts : lone.checkouts = [] := by
      rw [baskets, List.length_append, List.length_map, List.length_map, horders] at hlength
      exact List.length_eq_zero_iff.1 (Nat.add_eq_right.1 hlength)
    rw [Held, baskets, hcheckouts, horders] at hheld
    obtain ⟨second', ledger', hsecond, hrekeyed⟩ :=
      h.exists_reconcileOrder hregular hshop hsame (HeldTogether.singleton_iff.1 hheld)
    refine ⟨{ lone with checkouts := [], orders := [(name, second')], ledger := ledger' }, second',
      reconcile_eq_ok.2 ⟨_, _, lone.ledger, ledger', ?_, ?_, rfl⟩, rfl, hrekeyed⟩
    · rw [hcheckouts]
      exact runOn_forEachTarget_nil
    · rw [horders]
      exact forEachTarget_singleton hsecond
  · intro other other' hshop hheld hreconcile
    obtain ⟨-, -, hturns⟩ := hheld.turns hreconcile
    exact hturns.imp fun _ _ hturn hsame => h.rekeyed hturn.2 hregular hshop hsame

/-! ## Scenarios -/

/-- What is reconciled is reconciled target by target. -/
theorem Held.isolated (hheld : scenario.Held)
    (hregular : ∀ basket ∈ scenario.baskets, basket.Regular)
    (h : (Scenario.reconcile now).runOn scenario = (.ok u, scenario')) :
    scenario.Isolated now scenario' := by
  obtain ⟨-, hcheckouts, horders⟩ := hheld.turns h
  constructor
  · refine forall₂_imp_of_mem hcheckouts fun checkout hmem _ _ ⟨hname, hturns⟩ => ?_
    exact hturns.isolates hname (hregular _ (List.mem_append_left _ (List.mem_map_of_mem hmem)))
      (hheld.exists_alone_checkout hmem)
  · refine forall₂_imp_of_mem horders fun order hmem _ _ ⟨hname, hturns⟩ => ?_
    exact hturns.isolates hname (hregular _ (List.mem_append_right _ (List.mem_map_of_mem hmem)))
      (hheld.exists_alone_order hmem)

end Scenario

/-! ## What is read -/

namespace Assembly

/-- Whatever else is in a scenario that was read and however often it was reconciled, each checkout
and each order comes out as if it were alone. -/
theorem Loaded.isolated_of_run {a : Assembly} {times : List Instant} {now : Instant}
    {scenario scenario' : Scenario} (h : a.Loaded) (hrun : Scenario.Run a.scenario times scenario)
    (hreconcile : (Scenario.reconcile now).runOn scenario = (.ok (), scenario')) :
    scenario.Isolated now scenario' :=
  (hrun.held h.held).isolated (hrun.regular h.held h.regular) hreconcile

/-- The bookshop with a checkout and an order. -/
def bookstall : ManifestKind → Except LoadError Document
  | .orders => .ok <| .map [
      ("checkouts", .map [("first", .map [
        ("channel", .text "uk"),
        ("lines", .list [.map [("variant", .text "paperback"), ("quantity", .number "1")]])])]),
      ("orders", .map [("second", .map [
        ("channel", .text "uk"),
        ("shipping_method", .text "post"),
        ("lines", .list [.map [("variant", .text "paperback"), ("quantity", .number "2")]])])])]
  | kind => bookshop kind

/-- The record of the order has another key where the checkout is there. -/
theorem isolated_bookstall : ∃ a scenario lone, ofSet bookstall = .ok a ∧
    (Scenario.reconcile ⟨1800000000000000000⟩).runOn a.scenario = (.ok (), scenario) ∧
    (Scenario.reconcile ⟨1800000000000000000⟩).runOn { a.scenario with checkouts := [] } =
      (.ok (), lone) ∧
    scenario.records.map (·.key) = [⟨1⟩, ⟨2⟩] ∧ lone.records.map (·.key) = [⟨1⟩] ∧
    a.scenario.Isolated ⟨1800000000000000000⟩ scenario := by
  have hcomputed : (match ofSet bookstall with
      | .ok a => match (Scenario.reconcile ⟨1800000000000000000⟩).runOn a.scenario with
        | (.ok (), scenario) =>
          match (Scenario.reconcile ⟨1800000000000000000⟩).runOn
            { a.scenario with checkouts := [] } with
          | (.ok (), lone) => (scenario.records.map (·.key), lone.records.map (·.key))
          | (.error _, _) => ([], [])
        | (.error _, _) => ([], [])
      | .error _ => ([], [])) = ([⟨1⟩, ⟨2⟩], [⟨1⟩]) := by
    decide +kernel
  split at hcomputed
  · rename_i a hload
    split at hcomputed
    · rename_i scenario hreconcile
      split at hcomputed
      · rename_i lone hlone
        obtain ⟨hkeys, hloneKeys⟩ := Prod.mk.inj hcomputed
        exact ⟨a, scenario, lone, hload, hreconcile, hlone, hkeys, hloneKeys,
          Loaded.isolated_of_run (loaded_ofSet hload) .nil hreconcile⟩
      · simp at hcomputed
    · simp at hcomputed
  · simp at hcomputed

end Assembly

end Retail
