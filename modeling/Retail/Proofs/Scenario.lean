import Retail.Proofs.Reconcile

/-!
# The ledger mirrors the scenario

The ledger holds exactly the records that hang on the checkouts, the orders and their lines. Each of
them is reconciled while the records of all others stand aside.

## Main definitions

* `HeldTogether`: baskets with their records in the ledger, besides others
* `Scenario.baskets`, `Scenario.records`: what a scenario holds
* `Scenario.Held`: the ledger has the records of the scenario and no others
* `Scenario.Mirrored`: the same, record by record
* `Scenario.TurnsCheckout`, `Scenario.TurnsOrder`: what becomes of a checkout and of an order
* `Scenario.Run`: successful reconciliations one after the other
* `Scenario.run?`: the same, computed

## Main results

* `heldTogether_forEachTarget`: a step done on each target
* `Scenario.Held.turns`: what becomes of each target
* `Scenario.Held.reconcile`, `Scenario.Run.held`: one reconciliation, and any number of them
* `Scenario.Held.mirrored`: what it means that the ledger holds all records and no others
-/

namespace Retail

/-- The ledger holds the records of the baskets besides some others. -/
structure HeldTogether (baskets : List Basket) (ledger : Ledger) (rest : List DiscountRecord) :
    Prop where
  placed : ∀ basket ∈ baskets, basket.Placed
  holds : ledger.Holds (baskets.flatMap (·.records) ++ rest)

namespace HeldTogether

variable {baskets others : List Basket} {basket : Basket} {ledger ledger' : Ledger}
  {rest : List DiscountRecord}

theorem singleton_iff : HeldTogether [basket] ledger rest ↔ basket.HeldIn ledger rest := by
  constructor
  · rintro ⟨hplaced, hholds⟩
    exact ⟨hplaced basket List.mem_cons_self, by simpa using hholds⟩
  · rintro ⟨hplaced, hholds⟩
    exact ⟨List.forall_mem_singleton.2 hplaced, by simpa using hholds⟩

/-- Some of the baskets are held besides the records of the others. -/
theorem append_iff :
    HeldTogether (baskets ++ others) ledger rest ↔
      (∀ basket ∈ others, basket.Placed) ∧
        HeldTogether baskets ledger (others.flatMap (·.records) ++ rest) := by
  constructor
  · rintro ⟨hplaced, hholds⟩
    rw [List.forall_mem_append] at hplaced
    rw [List.flatMap_append, List.append_assoc] at hholds
    exact ⟨hplaced.2, hplaced.1, hholds⟩
  · rintro ⟨hothers, hplaced, hholds⟩
    refine ⟨List.forall_mem_append.2 ⟨hplaced, hothers⟩, ?_⟩
    rw [List.flatMap_append, List.append_assoc]
    exact hholds

theorem perm (h : HeldTogether baskets ledger rest) (hperm : baskets.Perm others) :
    HeldTogether others ledger rest :=
  ⟨fun basket hbasket => h.placed basket (hperm.mem_iff.2 hbasket),
    h.holds.perm ((hperm.flatMap_right _).append_right rest)⟩

theorem comm (h : HeldTogether (baskets ++ others) ledger rest) :
    HeldTogether (others ++ baskets) ledger rest :=
  h.perm List.perm_append_comm

/-- A basket whose records are entered in the ledger is held with the others. -/
theorem cons (h : HeldTogether baskets ledger []) (hplaced : basket.Placed)
    (hlist : ledger'.toList = ledger.toList ++ basket.records) :
    HeldTogether (basket :: baskets) ledger' [] := by
  refine ⟨List.forall_mem_cons.2 ⟨hplaced, h.placed⟩, ?_⟩
  refine (h.holds.append hlist).perm ?_
  rw [List.append_nil, List.append_nil, List.flatMap_cons]
  exact List.perm_append_comm

end HeldTogether

/-! ## Each target in turn -/

section Targets

variable {τ : Type} {step : Step (τ × Ledger) ReconcileError Unit} {name : String} {target : τ}
  {others targets targets' : List (String × τ)} {ledger ledger' : Ledger}
  {rest : List DiscountRecord} {u : Unit}

@[simp] theorem Scenario.runOn_forEachTarget_nil :
    (forEachTarget step).runOn ([], ledger) = (.ok (), ([], ledger)) := rfl

theorem Scenario.forEachTarget_cons_eq_ok :
    (forEachTarget step).runOn ((name, target) :: others, ledger) =
        (.ok u, (targets', ledger')) ↔
      ∃ target' ledger₁ others', step.runOn (target, ledger) = (.ok (), (target', ledger₁)) ∧
        (forEachTarget step).runOn (others, ledger₁) = (.ok u, (others', ledger')) ∧
        targets' = (name, target') :: others' := by
  show forEachTarget.go step ((name, target) :: others) ledger = _ ↔
    ∃ target' ledger₁ others', _ ∧ forEachTarget.go step others ledger₁ = _ ∧ _
  rw [forEachTarget.go]
  -- Once a target fails, the others are not tried.
  rcases step.runOn (target, ledger) with ⟨_ | _, target', ledger₁⟩
  · simp
  · rcases hgo : forEachTarget.go step others ledger₁ with ⟨result, others', ledger₂⟩
    simp only [hgo, Prod.mk.injEq]
    constructor
    · rintro ⟨rfl, rfl, rfl⟩
      exact ⟨target', ledger₁, others', ⟨trivial, rfl, rfl⟩, hgo, rfl⟩
    · rintro ⟨_, _, _, ⟨-, rfl, rfl⟩, hgo', rfl⟩
      rw [hgo] at hgo'
      simp only [Prod.mk.injEq] at hgo'
      obtain ⟨rfl, rfl, rfl⟩ := hgo'
      exact ⟨rfl, rfl, rfl⟩

/-- The first target fails, or else one of the others does. -/
theorem Scenario.exists_of_forEachTarget_cons_eq_error {e : ReconcileError}
    {after : List (String × τ) × Ledger}
    (h : (forEachTarget step).runOn ((name, target) :: others, ledger) = (.error e, after)) :
    (∃ failed, step.runOn (target, ledger) = (.error e, failed)) ∨
      ∃ target' ledger₁ failed, step.runOn (target, ledger) = (.ok (), (target', ledger₁)) ∧
        (forEachTarget step).runOn (others, ledger₁) = (.error e, failed) := by
  replace h : forEachTarget.go step ((name, target) :: others) ledger = (.error e, after) := h
  rw [forEachTarget.go] at h
  rcases hstep : step.runOn (target, ledger) with ⟨_ | _, target', ledger₁⟩
  · simp only [hstep, Prod.mk.injEq, Except.error.injEq] at h
    obtain ⟨rfl, -⟩ := h
    exact .inl ⟨_, rfl⟩
  · rcases hothers : forEachTarget.go step others ledger₁ with ⟨result, others', ledger₂⟩
    simp only [hstep, hothers, Prod.mk.injEq] at h
    obtain ⟨rfl, -⟩ := h
    exact .inr ⟨target', ledger₁, _, rfl, hothers⟩

/-- What keeps the ledger in step with one target keeps it in step with all of them, and what is
known of one target that the ledger holds becomes known of all of them. -/
theorem heldTogether_forEachTarget {basketOf : τ → Basket} {R : τ → τ → Prop}
    (hstep : ∀ {target target' : τ} {ledger ledger' : Ledger} {rest : List DiscountRecord},
      (basketOf target).HeldIn ledger rest →
      step.runOn (target, ledger) = (.ok (), (target', ledger')) →
      (basketOf target').HeldIn ledger' rest ∧ R target target')
    (hheld : HeldTogether (targets.map fun target => basketOf target.2) ledger rest)
    (h : (Scenario.forEachTarget step).runOn (targets, ledger) = (.ok u, (targets', ledger'))) :
    HeldTogether (targets'.map fun target => basketOf target.2) ledger' rest ∧
      List.Forall₂ (fun before after => after.1 = before.1 ∧ R before.2 after.2)
        targets targets' := by
  induction targets generalizing ledger rest targets' with
  | nil =>
    simp only [Scenario.runOn_forEachTarget_nil, Prod.mk.injEq] at h
    obtain ⟨-, rfl, rfl⟩ := h
    exact ⟨hheld, .nil⟩
  | cons first others ih =>
    obtain ⟨name, target⟩ := first
    obtain ⟨target', ledger₁, others', htarget, hothers, rfl⟩ :=
      Scenario.forEachTarget_cons_eq_ok.1 h
    rw [List.map_cons, ← List.singleton_append, HeldTogether.append_iff,
      HeldTogether.singleton_iff] at hheld
    obtain ⟨hheld', hrelated⟩ := hstep hheld.2 htarget
    have hfirst := HeldTogether.append_iff.2 ⟨hheld.1, HeldTogether.singleton_iff.2 hheld'⟩
    -- Now the first target stands aside while the step is done on the others.
    obtain ⟨hplaced, haside⟩ := HeldTogether.append_iff.1 hfirst.comm
    obtain ⟨hrest, houtcomes⟩ := ih haside hothers
    exact ⟨(HeldTogether.append_iff.2 ⟨hplaced, hrest⟩).comm, .cons ⟨rfl, hrelated⟩ houtcomes⟩

end Targets

/-! ## Scenarios -/

namespace Scenario

variable {scenario scenario' : Scenario} {now : Instant} {u : Unit}

/-- The baskets of all checkouts and orders. -/
def baskets (scenario : Scenario) : List Basket :=
  scenario.checkouts.map (·.2.toBasket) ++ scenario.orders.map (·.2.toBasket)

/-- The records that hang on checkouts, orders and their lines. -/
def records (scenario : Scenario) : List DiscountRecord := scenario.baskets.flatMap (·.records)

/-- Every record is in the ledger under its key, every record of the ledger hangs at exactly one
place, no key is used twice, and records say where they hang. -/
structure Mirrored (scenario : Scenario) : Prop where
  stored : ∀ record ∈ scenario.records, scenario.ledger.get? record.key = some record
  attached : ∀ record ∈ scenario.ledger.toList, scenario.records.count record = 1
  nodup : (scenario.records.map (·.key)).Nodup
  placed : ∀ basket ∈ scenario.baskets, basket.Placed

/-- The ledger holds the records of the scenario and nothing else. -/
def Held (scenario : Scenario) : Prop := HeldTogether scenario.baskets scenario.ledger []

theorem Held.mirrored (h : scenario.Held) : scenario.Mirrored := by
  have hholds : scenario.ledger.Holds scenario.records := by
    simpa [records] using h.holds
  refine ⟨fun record => hholds.get?, fun record hrecord => ?_, hholds.nodup, h.placed⟩
  exact List.count_eq_one_of_mem hholds.nodup.of_map (hholds.mem_iff.1 hrecord)

/-! Checkouts and orders are reconciled in channels that are known. -/

theorem reconcileCheckout_eq_ok {checkout checkout' : Checkout} {ledger ledger' : Ledger} :
    (scenario.reconcileCheckout now).runOn (checkout, ledger) = (.ok u, (checkout', ledger')) ↔
      ∃ channel report, scenario.channels.get? checkout.channel = some channel ∧
        (Checkout.reconcile channel scenario.promotions scenario.vouchers now).runOn
          (checkout, ledger) = (.ok report, (checkout', ledger')) := by
  simp only [reconcileCheckout, Step.runOn_get_bind]
  cases hchannel : scenario.channels.get? checkout.channel with
  | none => simp
  | some channel => simp [Step.runOn_discard_eq_ok]

theorem reconcileOrder_eq_ok {order order' : Order} {ledger ledger' : Ledger} :
    (scenario.reconcileOrder now).runOn (order, ledger) = (.ok u, (order', ledger')) ↔
      ∃ channel report, scenario.channels.get? order.channel = some channel ∧
        (Order.reconcile scenario.promotions scenario.vouchers now).runOn (order, ledger) =
          (.ok report, (order', ledger')) := by
  simp only [reconcileOrder, Step.runOn_get_bind]
  cases hchannel : scenario.channels.get? order.channel with
  | none => simp
  | some channel => simp [Step.runOn_discard_eq_ok]

/-- The checkout is reconciled while the ledger holds it. -/
def TurnsCheckout (scenario : Scenario) (now : Instant) (checkout checkout' : Checkout) : Prop :=
  ∃ channel report ledger ledger' rest, scenario.channels.get? checkout.channel = some channel ∧
    checkout.toBasket.HeldIn ledger rest ∧
    (Checkout.reconcile channel scenario.promotions scenario.vouchers now).runOn
      (checkout, ledger) = (.ok report, (checkout', ledger'))

/-- The order is reconciled while the ledger holds it. -/
def TurnsOrder (scenario : Scenario) (now : Instant) (order order' : Order) : Prop :=
  ∃ channel report ledger ledger' rest, scenario.channels.get? order.channel = some channel ∧
    order.toBasket.HeldIn ledger rest ∧
    (Order.reconcile scenario.promotions scenario.vouchers now).runOn (order, ledger) =
      (.ok report, (order', ledger'))

/-- Reconciling a scenario reconciles its checkouts and then its orders, and nothing else. -/
theorem reconcile_eq_ok :
    (reconcile now).runOn scenario = (.ok u, scenario') ↔
      ∃ checkouts orders ledger₁ ledger₂,
        (forEachTarget (scenario.reconcileCheckout now)).runOn
          (scenario.checkouts, scenario.ledger) = (.ok (), (checkouts, ledger₁)) ∧
        (forEachTarget (scenario.reconcileOrder now)).runOn (scenario.orders, ledger₁) =
          (.ok (), (orders, ledger₂)) ∧
        scenario' = { scenario with checkouts, orders, ledger := ledger₂ } := by
  simp only [reconcile, Step.runOn_get_bind, Step.runOn_bind_eq_ok, Step.runOn_on_eq_ok,
    Prod.exists]
  constructor
  · rintro ⟨_, _, ⟨checkouts, ledger₁, hcheckouts, rfl⟩, orders, ledger₂, horders, rfl⟩
    exact ⟨checkouts, orders, ledger₁, ledger₂, hcheckouts, horders, rfl⟩
  · rintro ⟨checkouts, orders, ledger₁, ledger₂, hcheckouts, horders, rfl⟩
    exact ⟨_, _, ⟨checkouts, ledger₁, hcheckouts, rfl⟩, orders, ledger₂, horders, rfl⟩

theorem turns_reconcileCheckout {checkout checkout' : Checkout} {ledger ledger' : Ledger}
    {rest : List DiscountRecord} (hheld : checkout.toBasket.HeldIn ledger rest)
    (h : (scenario.reconcileCheckout now).runOn (checkout, ledger) =
      (.ok u, (checkout', ledger'))) :
    checkout'.toBasket.HeldIn ledger' rest ∧ scenario.TurnsCheckout now checkout checkout' := by
  obtain ⟨_, _, hchannel, hreconcile⟩ := reconcileCheckout_eq_ok.1 h
  exact ⟨Checkout.heldIn_reconcile hheld hreconcile, _, _, _, _, _, hchannel, hheld, hreconcile⟩

theorem turns_reconcileOrder {order order' : Order} {ledger ledger' : Ledger}
    {rest : List DiscountRecord} (hheld : order.toBasket.HeldIn ledger rest)
    (h : (scenario.reconcileOrder now).runOn (order, ledger) = (.ok u, (order', ledger'))) :
    order'.toBasket.HeldIn ledger' rest ∧ scenario.TurnsOrder now order order' := by
  obtain ⟨_, _, hchannel, hreconcile⟩ := reconcileOrder_eq_ok.1 h
  exact ⟨Order.heldIn_reconcile hheld hreconcile, _, _, _, _, _, hchannel, hheld, hreconcile⟩

/-- Each checkout and each order is reconciled while the ledger holds it, and the ledger stays in
step with the scenario. -/
theorem Held.turns (hheld : scenario.Held)
    (h : (reconcile now).runOn scenario = (.ok u, scenario')) :
    scenario'.Held ∧
      List.Forall₂ (fun before after => after.1 = before.1 ∧
        scenario.TurnsCheckout now before.2 after.2) scenario.checkouts scenario'.checkouts ∧
      List.Forall₂ (fun before after => after.1 = before.1 ∧
        scenario.TurnsOrder now before.2 after.2) scenario.orders scenario'.orders := by
  obtain ⟨checkouts, orders, ledger₁, ledger₂, hcheckouts, horders, rfl⟩ := reconcile_eq_ok.1 h
  obtain ⟨hplaced, hheld⟩ := HeldTogether.append_iff.1 hheld
  obtain ⟨hheld₁, hturns₁⟩ :=
    heldTogether_forEachTarget turns_reconcileCheckout hheld hcheckouts
  obtain ⟨hplaced, hheld⟩ :=
    HeldTogether.append_iff.1 (HeldTogether.append_iff.2 ⟨hplaced, hheld₁⟩).comm
  obtain ⟨hheld₂, hturns₂⟩ := heldTogether_forEachTarget turns_reconcileOrder hheld horders
  exact ⟨(HeldTogether.append_iff.2 ⟨hplaced, hheld₂⟩).comm, hturns₁, hturns₂⟩

/-- Reconciling keeps the ledger in step with the scenario. -/
theorem Held.reconcile (hheld : scenario.Held)
    (h : (reconcile now).runOn scenario = (.ok u, scenario')) : scenario'.Held :=
  (hheld.turns h).1

/-- Successful reconciliations at some times, one after the other. -/
inductive Run (start : Scenario) : List Instant → Scenario → Prop
  | nil : Run start [] start
  | snoc {times : List Instant} {now : Instant} {scenario scenario' : Scenario} :
    Run start times scenario → (reconcile now).runOn scenario = (.ok (), scenario') →
      Run start (times ++ [now]) scenario'

theorem Run.held {start : Scenario} {times : List Instant} (h : Run start times scenario)
    (hstart : start.Held) : scenario.Held := by
  induction h with
  | nil => exact hstart
  | snoc _ hreconcile ih => exact ih.reconcile hreconcile

/-- The scenario after it was reconciled at the times, if it can be at all of them. -/
def run? (start : Scenario) : List Instant → Option Scenario
  | [] => some start
  | now :: times =>
    let (result, next) := (reconcile now).runOn start
    result.toOption.bind fun _ => next.run? times

theorem run?_cons_eq_some {start : Scenario} {times : List Instant} :
    start.run? (now :: times) = some scenario ↔
      ∃ next, (reconcile now).runOn start = (.ok (), next) ∧ next.run? times = some scenario := by
  rw [run?]
  rcases (reconcile now).runOn start with ⟨_ | u, next⟩
  · simp [Except.toOption]
  · simp [Except.toOption]

theorem run?_concat {start earlier : Scenario} {times : List Instant}
    (h : start.run? times = some earlier)
    (hreconcile : (reconcile now).runOn earlier = (.ok (), scenario)) :
    start.run? (times ++ [now]) = some scenario := by
  induction times generalizing start with
  | nil =>
    obtain rfl := Option.some.inj h
    exact run?_cons_eq_some.2 ⟨scenario, hreconcile, rfl⟩
  | cons first times ih =>
    obtain ⟨next, hfirst, h⟩ := run?_cons_eq_some.1 h
    exact run?_cons_eq_some.2 ⟨next, hfirst, ih h⟩

theorem Run.cons {start next : Scenario} {times : List Instant}
    (h : (reconcile now).runOn start = (.ok (), next)) (hrun : Run next times scenario) :
    Run start (now :: times) scenario := by
  induction hrun with
  | nil => exact Run.nil.snoc h
  | snoc _ hreconcile ih => exact ih.snoc hreconcile

/-- Runs are what is computed. -/
theorem run?_eq_some {start : Scenario} {times : List Instant} :
    start.run? times = some scenario ↔ Run start times scenario := by
  constructor
  · intro h
    induction times generalizing start with
    | nil =>
      obtain rfl := Option.some.inj h
      exact .nil
    | cons now times ih =>
      obtain ⟨next, hreconcile, h⟩ := run?_cons_eq_some.1 h
      exact (ih h).cons hreconcile
  · intro h
    induction h with
    | nil => rfl
    | snoc _ hreconcile ih => exact run?_concat ih hreconcile

end Scenario

end Retail
