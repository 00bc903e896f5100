import Retail.Proofs.Assembly
import Retail.Proofs.Run

/-!
# Promotions of an assembled scenario

While a scenario is assembled no promotion leaves a record, and lines have prices that the catalogue
lists. So the promotions of a scenario are those that apply, once it has been reconciled.

## Main definitions

* `Assembly.Fresh`: a basket that no promotion has changed

## Main results

* `Assembly.Loaded.fresh`: all baskets of an assembled scenario are fresh
* `Assembly.Loaded.upToDate_of_run`: they are up to date after any number of reconciliations
-/

namespace Retail

namespace Assembly

variable {a a' : Assembly} {basket : Basket} {channel : ChannelKey}

/-- No promotion has changed the basket, and its lines have prices that the catalogue lists. -/
structure Fresh (a : Assembly) (basket : Basket) : Prop where
  lines : ∀ line ∈ basket.lines, line.discounts = [] ∧ a.Lists line.undiscountedUnitPrice
  kinds : ∀ record ∈ basket.discounts, record.kind = .voucher ∨ record.kind = .manual

theorem Fresh.mono (h : a.Fresh basket)
    (hlists : ∀ {price : Money}, a.Lists price → a'.Lists price) : a'.Fresh basket :=
  ⟨fun line hline => ⟨(h.lines line hline).1, hlists (h.lines line hline).2⟩, h.kinds⟩

theorem SameSales.fresh (h : a.SameSales a')
    (hfresh : ∀ basket ∈ a.scenario.baskets, a.Fresh basket) :
    ∀ basket ∈ a'.scenario.baskets, a'.Fresh basket := by
  rw [Scenario.baskets, h.checkouts, h.orders]
  exact fun basket hbasket => (hfresh basket hbasket).mono h.lists

theorem Fresh.regular (h : a.Fresh basket) : basket.Regular := by
  have hkinds : ∀ record ∈ basket.discounts, record.kind ≠ .orderPromotion := by
    intro record hrecord hkind
    rcases h.kinds record hrecord with hother | hother <;> simp [hkind] at hother
  have hnone : basket.orderPromotions = [] := by
    rw [Basket.orderPromotions, List.filter_eq_nil_iff]
    simpa using hkinds
  refine ⟨fun line hline => Line.tidy_of_discounts_eq_nil (h.lines line hline).1,
    fun record hrecord hkind => ?_, ?_, by simp [hnone], by simp [hnone]⟩
  · rcases h.kinds record hrecord with hother | hother <;> simp [hkind] at hother
  · exact List.pairwise_of_forall_mem_list fun record hrecord _ _ hkind =>
      absurd hkind (hkinds record hrecord)

/-! ## Baskets -/

/-- The price of a line that is entered is one of those of its variant. -/
theorem Sells.lists {entry : LineEntry} {line : Line} (h : a.Sells channel entry line) :
    a.Lists line.undiscountedUnitPrice := by
  obtain ⟨variant, hvariant, hfound⟩ := Option.bind_eq_some_iff.1 h.price
  obtain ⟨listing, hlisting, hprice⟩ := Option.map_eq_some_iff.1 hfound
  refine ⟨variant, List.mem_map_of_mem (Registry.get?_eq_some.1 hvariant), ?_⟩
  rw [← hprice]
  exact List.mem_map_of_mem (List.mem_reverse.1 (List.mem_of_find?_eq_some hlisting))

theorem unchanged_of_sells {entries : List LineEntry} {lines : List Line}
    (h : List.Forall₂ (a.Sells channel) entries lines) :
    ∀ line ∈ lines, line.discounts = [] ∧ a.Lists line.undiscountedUnitPrice := by
  intro line hline
  obtain ⟨_, -, hsells⟩ := exists_left_of_forall₂ h hline
  exact ⟨hsells.discounts, hsells.lists⟩

/-- A checkout comes without records. -/
theorem fresh_addCheckout {entry : String × BasketEntry} (h : a.addCheckout entry = .ok a')
    (hfresh : ∀ basket ∈ a.scenario.baskets, a.Fresh basket) :
    ∀ basket ∈ a'.scenario.baskets, a'.Fresh basket := by
  obtain ⟨_, checkout, _, rfl, hopens⟩ := exists_of_addCheckout h
  have hcheckout : a.Fresh checkout.toBasket :=
    ⟨unchanged_of_sells hopens.lines, by simp [hopens.discounts]⟩
  simp only [Scenario.baskets, List.map_append, List.map_singleton, List.forall_mem_append,
    List.forall_mem_singleton] at hfresh ⊢
  exact ⟨⟨fun basket hbasket => (hfresh.1 basket hbasket).mono id, hcheckout.mono id⟩,
    fun basket hbasket => (hfresh.2 basket hbasket).mono id⟩

/-- An order comes with the records of its voucher and of what the staff gave. -/
theorem fresh_addOrder {entry : String × OrderEntry} (h : a.addOrder entry = .ok a')
    (hfresh : ∀ basket ∈ a.scenario.baskets, a.Fresh basket) :
    ∀ basket ∈ a'.scenario.baskets, a'.Fresh basket := by
  obtain ⟨_, _, order, _, rfl, -, hplaces⟩ := exists_of_addOrder h
  have horder : a.Fresh order.toBasket :=
    ⟨unchanged_of_sells hplaces.lines, fun _ hrecord => (hplaces.origin hrecord).2⟩
  simp only [Scenario.baskets, List.map_append, List.map_singleton, List.forall_mem_append,
    List.forall_mem_singleton] at hfresh ⊢
  exact ⟨fun basket hbasket => (hfresh.1 basket hbasket).mono id,
    fun basket hbasket => (hfresh.2 basket hbasket).mono id, horder.mono id⟩

theorem invariant_fresh : Invariant fun a => ∀ basket ∈ a.scenario.baskets, a.Fresh basket where
  empty := List.forall_mem_nil _
  sameSales := SameSales.fresh
  checkout := fresh_addCheckout
  order := fresh_addOrder

theorem Loaded.fresh (h : a.Loaded) : ∀ basket ∈ a.scenario.baskets, a.Fresh basket :=
  h.invariant invariant_fresh

theorem Loaded.regular (h : a.Loaded) : ∀ basket ∈ a.scenario.baskets, basket.Regular :=
  fun basket hbasket => (h.fresh basket hbasket).regular

/-! ## Vouchers -/

/-- An order comes with a record of a voucher exactly when it comes with a voucher code. -/
theorem Places.voucherNoted {entry : OrderEntry} {order : Order} {shop : Channel}
    (h : a.Places entry order shop) : order.toBasket.VoucherNoted := by
  obtain ⟨voucher, manual, hvoucher, hmanual, hrecords⟩ := h.discounts
  have hmem : (∃ record ∈ order.discounts, record.kind = .voucher) ↔
      ∃ discount ∈ order.discounts.map (·.toDiscount), discount.kind = .voucher := by
    simp
  rw [Basket.VoucherNoted, h.voucherCode, ← isSome_of_optionMapM_eq_ok hvoucher, hmem, hrecords]
  constructor
  · intro hsome
    obtain ⟨⟨key, discount⟩, hfound⟩ := Option.isSome_iff_exists.1 hsome
    obtain ⟨_, -, htext⟩ := exists_of_optionMapM_eq_ok hvoucher hfound
    obtain ⟨_, _, -, -, -, rfl⟩ := voucherDiscount_eq_ok.1 htext
    subst hfound
    exact ⟨_, List.mem_append_left _ List.mem_cons_self, rfl⟩
  · rintro ⟨discount, hdiscount, hkind⟩
    rw [List.mem_append, Option.mem_toList, Option.mem_toList, Option.map_eq_some_iff] at hdiscount
    rcases hdiscount with ⟨found, hfound, -⟩ | hfound
    · exact Option.isSome_iff_exists.2 ⟨found, hfound⟩
    · obtain ⟨_, -, hentry⟩ := exists_of_optionMapM_eq_ok hmanual hfound
      rw [(origin_of_manualDiscount hentry).2] at hkind
      contradiction

theorem invariant_voucherNoted :
    Invariant fun a => ∀ order ∈ a.scenario.orders, order.2.toBasket.VoucherNoted where
  empty := List.forall_mem_nil _
  sameSales hsame hnoted := by
    rw [hsame.orders]
    exact hnoted
  checkout h hnoted := by
    obtain ⟨_, _, _, rfl, -⟩ := exists_of_addCheckout h
    exact hnoted
  order h hnoted := by
    obtain ⟨_, _, _, _, rfl, -, hplaces⟩ := exists_of_addOrder h
    exact List.forall_mem_append.2 ⟨hnoted, List.forall_mem_singleton.2 hplaces.voucherNoted⟩

theorem Loaded.voucherNoted (h : a.Loaded) :
    ∀ order ∈ a.scenario.orders, order.2.toBasket.VoucherNoted :=
  h.invariant invariant_voucherNoted

/-! ## Runs -/

/-- Where no listed price is below zero, the promotions of a scenario are those that apply when it
was last reconciled. -/
theorem Loaded.upToDate_of_run {times : List Instant} {now : Instant} {scenario : Scenario}
    (h : a.Loaded) (hlisted : ∀ price, a.Lists price → 0 ≤ price.minor)
    (hrun : Scenario.Run a.scenario (times ++ [now]) scenario) : scenario.UpToDate now :=
  hrun.upToDate h.held h.regular fun basket hbasket line hline =>
    hlisted _ ((h.fresh basket hbasket).lines line hline).2

/-- A shop that sells a novel at a quarter off in 2024, and that gives a tenth off every checkout
from then on. -/
def fair : ManifestKind → Except LoadError Document
  | .channels => .ok <| .map [("channels", .map [("uk", .map [("currency", .text "GBP")])])]
  | .catalogue => .ok <| .map [("products", .map [("novel", .map [
      ("name", .text "Novel"),
      ("variants", .map [("paperback", .map [
        ("name", .text "Paperback"),
        ("prices", .map [("uk", .text "8.00 GBP")])])])])])]
  | .promotions => .ok <| .map [("promotions", .map [
      ("sale", .map [
        ("id", .text "00000000-0000-0000-0000-000000000001"),
        ("start", .text "2024-01-01T00:00:00Z"),
        ("end", .text "2025-01-01T00:00:00Z"),
        ("rules", .list [.map [
          ("channels", .list [.text "uk"]),
          ("catalogue", .map [("products", .list [.text "novel"])]),
          ("reward_value_type", .text "percentage"),
          ("reward_value", .text "25")]])]),
      ("fair", .map [
        ("id", .text "00000000-0000-0000-0000-000000000002"),
        ("start", .text "2024-01-01T00:00:00Z"),
        ("rules", .list [.map [
          ("channels", .list [.text "uk"]),
          ("order", .map []),
          ("reward_value_type", .text "percentage"),
          ("reward_value", .text "10")]])])])]
  | .vouchers => .ok <| .map [("vouchers", .map [])]
  | .orders => .ok <| .map [("checkouts", .map [("first", .map [
      ("channel", .text "uk"),
      ("lines", .list [.map [("variant", .text "paperback"), ("quantity", .number "2")]])])])]

/-- The record of the sale goes when the sale is over, and that of the fair stays. -/
theorem upToDate_fair : ∃ a scenario, ofSet fair = .ok a ∧
    Scenario.Run a.scenario [⟨1710000000000000000⟩, ⟨1800000000000000000⟩] scenario ∧
    scenario.ledger.toList.map (·.kind) = [.orderPromotion] ∧
    scenario.UpToDate ⟨1800000000000000000⟩ := by
  have hcomputed : (match ofSet fair with
      | .ok a => match (Scenario.reconcile ⟨1710000000000000000⟩).runOn a.scenario with
        | (.ok (), middle) =>
          match (Scenario.reconcile ⟨1800000000000000000⟩).runOn middle with
          | (.ok (), scenario) => (scenario.ledger.toList.map (·.kind),
              a.scenario.catalogue.variants.values.all fun variant =>
                (variant.prices.map Prod.snd).all fun price => 0 ≤ price.minor)
          | (.error _, _) => ([], false)
        | (.error _, _) => ([], false)
      | .error _ => ([], false)) = ([.orderPromotion], true) := by
    decide +kernel
  split at hcomputed
  · rename_i a hload
    split at hcomputed
    · rename_i middle hfirst
      split at hcomputed
      · rename_i scenario hsecond
        obtain ⟨hkinds, hlisted⟩ := Prod.mk.inj hcomputed
        have hrun := (Scenario.Run.nil.snoc hfirst).snoc hsecond
        refine ⟨a, scenario, hload, hrun, hkinds,
          Loaded.upToDate_of_run (loaded_ofSet hload) ?_ hrun⟩
        rintro price ⟨variant, hvariant, hprice⟩
        simpa using List.all_eq_true.1 (List.all_eq_true.1 hlisted variant hvariant) price hprice
      · simp at hcomputed
    · simp at hcomputed
  · simp at hcomputed

end Assembly

end Retail
