import Retail.Assembly.Set
import Retail.Proofs.Entry
import Retail.Proofs.Scenario

/-!
# The ledger of an assembled scenario

While a scenario is assembled, only orders bring records with them, and these are entered in the
ledger before the order is. What else is assembled leaves checkouts, orders and the ledger alone.

## Main definitions

* `Assembly.Loaded`: an assembly of documents, in whatever order
* `Assembly.Lists`: a price of the catalogue
* `Assembly.SameSales`: an assembly that kept its checkouts, orders and ledger
* `Assembly.Invariant`: a property that an assembly keeps, whatever is entered
* `Assembly.replay?`: a set that is loaded and reconciled

## Main results

* `Assembly.loaded_ofSet`: a whole set is such an assembly
* `Assembly.Loaded.held`: the ledger of an assembled scenario holds its records
* `Assembly.Loaded.mirrored_of_run`: so it does after any number of reconciliations
-/

namespace Retail

namespace Assembly

variable {a a' b : Assembly}

/-- The assembly of documents that were loaded one after the other. -/
inductive Loaded : Assembly → Prop
  | empty : Loaded .empty
  | load {a a' : Assembly} {kind : ManifestKind} {document : Except LoadError Document} :
    Loaded a → a.load kind document = .ok a' → Loaded a'

/-- A variant of the catalogue is listed at this price. -/
def Lists (a : Assembly) (price : Money) : Prop :=
  ∃ variant ∈ a.scenario.catalogue.variants.values, price ∈ variant.prices.map Prod.snd

/-- The assembly kept its checkouts, its orders and its ledger, and the prices that it listed. -/
structure SameSales (a a' : Assembly) : Prop where
  checkouts : a'.scenario.checkouts = a.scenario.checkouts
  orders : a'.scenario.orders = a.scenario.orders
  ledger : a'.scenario.ledger = a.scenario.ledger
  lists : ∀ {price : Money}, a.Lists price → a'.Lists price

theorem SameSales.refl (a : Assembly) : a.SameSales a := ⟨rfl, rfl, rfl, id⟩

theorem SameSales.trans (h : a.SameSales a') (h' : a'.SameSales b) : a.SameSales b :=
  ⟨h'.checkouts.trans h.checkouts, h'.orders.trans h.orders, h'.ledger.trans h.ledger,
    fun hprice => h'.lists (h.lists hprice)⟩

theorem SameSales.held (h : a.SameSales a') (hheld : a.scenario.Held) : a'.scenario.Held := by
  rw [Scenario.Held, Scenario.baskets, h.checkouts, h.orders, h.ledger]
  exact hheld

/-- What is assembled from a list keeps the sales when each of its entries does. -/
theorem sameSales_foldlM {α : Type} {add : Assembly → α → Except LoadError Assembly}
    {entries : List α} (hadd : ∀ {a a' entry}, add a entry = .ok a' → a.SameSales a')
    (h : entries.foldlM add a = .ok a') : a.SameSales a' :=
  foldlM_eq_ok_induction (fun _ _ _ _ hstep hprior => hprior.trans (hadd hstep)) h (.refl a)

/-! ## The shop -/

theorem sameSales_ensureShippingMethod (name : String) :
    a.SameSales (a.ensureShippingMethod name).1 := by
  unfold ensureShippingMethod
  split <;> exact ⟨rfl, rfl, rfl, id⟩

theorem sameSales_addShippingPrices {currency : Currency} {entries : Named String}
    {prices : List (ShippingMethodKey × Money)}
    (h : addShippingPrices currency a entries = .ok (a', prices)) : a.SameSales a' := by
  induction entries generalizing a prices with
  | nil =>
    simp only [addShippingPrices, Except.ok.injEq, Prod.mk.injEq] at h
    exact h.1 ▸ .refl a
  | cons entry rest ih =>
    simp only [addShippingPrices, bind_eq_ok, pure_eq_ok, Prod.exists, Prod.mk.injEq] at h
    obtain ⟨price, -, _, more, hmore, rfl, -⟩ := h
    exact (sameSales_ensureShippingMethod entry.1).trans (ih hmore)

theorem sameSales_addChannel {entry : String × ChannelEntry} (h : a.addChannel entry = .ok a') :
    a.SameSales a' := by
  simp only [addChannel, bind_eq_ok, pure_eq_ok, Prod.exists] at h
  obtain ⟨currency, -, _, prices, hprices, rfl⟩ := h
  obtain ⟨hcheckouts, horders, hledger, hlists⟩ := sameSales_addShippingPrices hprices
  exact ⟨hcheckouts, horders, hledger, hlists⟩

theorem sameSales_foldl {α : Type} {add : Assembly → α → Assembly} {entries : List α}
    (hadd : ∀ (a : Assembly) (entry : α), a.SameSales (add a entry)) :
    a.SameSales (entries.foldl add a) := by
  induction entries generalizing a with
  | nil => exact .refl a
  | cons entry rest ih => exact (hadd a entry).trans ih

theorem sameSales_addVariant {product : ProductKey} {entry : String × VariantEntry}
    (h : addVariant product a entry = .ok a') : a.SameSales a' := by
  simp only [addVariant, bind_eq_ok, pure_eq_ok] at h
  obtain ⟨prices, -, rfl⟩ := h
  refine ⟨rfl, rfl, rfl, fun ⟨variant, hvariant, hprice⟩ => ⟨variant, ?_, hprice⟩⟩
  simp only [withCatalogue, Registry.values, Registry.push, List.map_append]
  exact List.mem_append_left _ hvariant

theorem sameSales_addProduct {entry : String × ProductEntry} (h : a.addProduct entry = .ok a') :
    a.SameSales a' := by
  simp only [addProduct, bind_eq_ok] at h
  obtain ⟨category, -, collections, -, h⟩ := h
  obtain ⟨hcheckouts, horders, hledger, hlists⟩ := sameSales_foldlM sameSales_addVariant h
  exact ⟨hcheckouts, horders, hledger, hlists⟩

theorem sameSales_addCatalogue {manifest : CatalogueManifest}
    (h : a.addCatalogue manifest = .ok a') : a.SameSales a' := by
  have hcategories : ∀ (a : Assembly) (name : String), a.SameSales (a.addCategory name) :=
    fun _ _ => ⟨rfl, rfl, rfl, id⟩
  have hcollections : ∀ (a : Assembly) (name : String), a.SameSales (a.addCollection name) :=
    fun _ _ => ⟨rfl, rfl, rfl, id⟩
  exact ((sameSales_foldl hcategories).trans (sameSales_foldl hcollections)).trans
    (sameSales_foldlM sameSales_addProduct h)

/-! ## The offers -/

theorem sameSales_addRule {promotion : PromotionKey} {entry : RuleEntry}
    (h : addRule promotion a entry = .ok a') : a.SameSales a' := by
  simp only [addRule, bind_eq_ok, pure_eq_ok, Prod.exists] at h
  obtain ⟨_, -, _, -, _, -, _, _, -, rfl⟩ := h
  exact ⟨rfl, rfl, rfl, id⟩

theorem sameSales_addPromotion {entry : String × PromotionEntry}
    (h : a.addPromotion entry = .ok a') : a.SameSales a' := by
  simp only [addPromotion, bind_eq_ok, pure_eq_ok] at h
  obtain ⟨_, -, _, hrules, rfl⟩ := h
  obtain ⟨hcheckouts, horders, hledger, hlists⟩ := sameSales_foldlM sameSales_addRule hrules
  exact ⟨hcheckouts, horders, hledger, hlists⟩

theorem sameSales_addPromotions {entries : Named PromotionEntry}
    (h : a.addPromotions entries = .ok a') : a.SameSales a' := by
  simp only [addPromotions, bind_eq_ok, pure_eq_ok, Prod.exists] at h
  obtain ⟨_, hpromotions, _, _, -, rfl⟩ := h
  obtain ⟨hcheckouts, horders, hledger, hlists⟩ :=
    sameSales_foldlM sameSales_addPromotion hpromotions
  exact ⟨hcheckouts, horders, hledger, hlists⟩

theorem sameSales_addCode {voucher : VoucherKey} {text : String}
    (h : addCode voucher a text = .ok a') : a.SameSales a' := by
  simp only [addCode, bind_eq_ok, pure_eq_ok, Prod.exists] at h
  obtain ⟨_, _, -, rfl⟩ := h
  exact ⟨rfl, rfl, rfl, id⟩

theorem sameSales_addVoucher {entry : String × VoucherEntry} (h : a.addVoucher entry = .ok a') :
    a.SameSales a' := by
  simp only [addVoucher, bind_eq_ok, pure_eq_ok] at h
  obtain ⟨_, -, _, hcodes, rfl⟩ := h
  obtain ⟨hcheckouts, horders, hledger, hlists⟩ := sameSales_foldlM sameSales_addCode hcodes
  exact ⟨hcheckouts, horders, hledger, hlists⟩

/-! ## Sales -/

/-- A checkout comes without records. -/
theorem held_addCheckout {entry : String × BasketEntry} (h : a.addCheckout entry = .ok a')
    (hheld : a.scenario.Held) : a'.scenario.Held := by
  obtain ⟨_, checkout, _, rfl, hopens⟩ := exists_of_addCheckout h
  have hnone := discounts_eq_nil_of_sells hopens.lines
  rw [Scenario.Held, Scenario.baskets, List.map_append, List.map_singleton, List.append_assoc]
  refine (HeldTogether.cons hheld ?_ ?_).perm List.perm_middle.symm
  · exact ⟨by simp [hopens.discounts], fun line hline => by simp [Line.Placed, hnone line hline]⟩
  · simp [Basket.records, hopens.discounts, List.flatMap_eq_nil_iff.2 hnone]

/-- An order comes with the records of its voucher and of what the staff gave. -/
theorem held_addOrder {entry : String × OrderEntry} (h : a.addOrder entry = .ok a')
    (hheld : a.scenario.Held) : a'.scenario.Held := by
  obtain ⟨_, _, order, _, rfl, hlist, hplaces⟩ := exists_of_addOrder h
  have hnone := discounts_eq_nil_of_sells hplaces.lines
  rw [Scenario.Held, Scenario.baskets] at hheld
  rw [Scenario.Held, Scenario.baskets, List.map_append, List.map_singleton, ← List.append_assoc]
  refine (hheld.cons ?_ ?_).perm (List.perm_append_singleton _ _).symm
  · exact ⟨fun record hrecord => (hplaces.origin hrecord).1,
      fun line hline => by simp [Line.Placed, hnone line hline]⟩
  · simp [Basket.records, hlist, List.flatMap_eq_nil_iff.2 hnone]

/-! ## Documents -/

/-- A document that is loaded is there and well-formed, and what it holds is entered. -/
theorem exists_of_load {kind : ManifestKind} {document : Except LoadError Document}
    (h : a.load kind document = .ok a') :
    ∃ content manifest, document = .ok content ∧
      Manifest.ofDocument? kind content = some manifest ∧ a.add manifest = .ok a' := by
  simp only [Assembly.load, bind_eq_ok] at h
  obtain ⟨content, hcontent, h⟩ := h
  split at h
  · rename_i manifest hmanifest
    exact ⟨content, manifest, hcontent, hmanifest, h⟩
  · exact (throw_eq_ok.1 h).elim

/-- Only a manifest of checkouts and orders brings any. -/
theorem sameSales_or_orders_of_add {manifest : Manifest} (h : a.add manifest = .ok a') :
    a.SameSales a' ∨ ∃ sales, manifest = .orders sales ∧ a.addSales sales = .ok a' := by
  cases manifest with
  | channels entries => exact .inl (sameSales_foldlM sameSales_addChannel h)
  | catalogue manifest => exact .inl (sameSales_addCatalogue h)
  | promotions entries => exact .inl (sameSales_addPromotions h)
  | vouchers entries => exact .inl (sameSales_foldlM sameSales_addVoucher h)
  | orders sales => exact .inr ⟨sales, rfl, h⟩

/-- Whatever is entered, the assembly keeps the property. -/
structure Invariant (P : Assembly → Prop) : Prop where
  empty : P .empty
  sameSales : ∀ {a a' : Assembly}, a.SameSales a' → P a → P a'
  checkout : ∀ {a a' : Assembly} {entry : String × BasketEntry},
    a.addCheckout entry = .ok a' → P a → P a'
  order : ∀ {a a' : Assembly} {entry : String × OrderEntry}, a.addOrder entry = .ok a' → P a → P a'

section Invariant

variable {P : Assembly → Prop}

theorem Invariant.addSales {manifest : SalesManifest} (hP : Invariant P)
    (h : a.addSales manifest = .ok a') (ha : P a) : P a' := by
  simp only [Assembly.addSales, bind_eq_ok] at h
  obtain ⟨a₁, hcheckouts, horders⟩ := h
  have ha₁ := foldlM_eq_ok_induction (fun _ _ _ _ hcheckout => hP.checkout hcheckout) hcheckouts ha
  exact foldlM_eq_ok_induction (fun _ _ _ _ horder => hP.order horder) horders ha₁

theorem Invariant.add {manifest : Manifest} (hP : Invariant P) (h : a.add manifest = .ok a')
    (ha : P a) : P a' := by
  rcases sameSales_or_orders_of_add h with hsame | ⟨sales, -, h⟩
  · exact hP.sameSales hsame ha
  · exact hP.addSales h ha

theorem Invariant.load {kind : ManifestKind} {document : Except LoadError Document}
    (hP : Invariant P) (h : a.load kind document = .ok a') (ha : P a) : P a' := by
  obtain ⟨_, _, -, -, hadd⟩ := exists_of_load h
  exact hP.add hadd ha

theorem Loaded.invariant (h : a.Loaded) (hP : Invariant P) : P a := by
  induction h with
  | empty => exact hP.empty
  | load _ hload ih => exact hP.load hload ih

end Invariant

theorem invariant_held : Invariant (·.scenario.Held) where
  empty := ⟨List.forall_mem_nil _, List.Perm.nil⟩
  sameSales := SameSales.held
  checkout := held_addCheckout
  order := held_addOrder

theorem Loaded.held (h : a.Loaded) : a.scenario.Held := h.invariant invariant_held

/-- A set is loaded document by document. -/
theorem loaded_ofSet {documents : ManifestKind → Except LoadError Document}
    (h : ofSet documents = .ok a) : a.Loaded :=
  foldlM_eq_ok_induction (fun _ _ _ _ hload hloaded => hloaded.load hload) h .empty

/-- Loads a set of documents and reconciles the scenario at the times. -/
def replay? (documents : ManifestKind → Except LoadError Document) (times : List Instant) :
    Option (Assembly × Scenario) :=
  (ofSet documents).toOption.bind fun a => (a.scenario.run? times).map (a, ·)

theorem replay?_eq_some {documents : ManifestKind → Except LoadError Document}
    {times : List Instant} {scenario : Scenario} :
    replay? documents times = some (a, scenario) ↔
      ofSet documents = .ok a ∧ Scenario.Run a.scenario times scenario := by
  rw [replay?, ← Scenario.run?_eq_some]
  cases ofSet documents with
  | error e => simp [Except.toOption]
  | ok found =>
    simp only [Except.toOption, Option.bind_some, Option.map_eq_some_iff, Prod.mk.injEq,
      Except.ok.injEq]
    constructor
    · rintro ⟨_, hrun, rfl, rfl⟩
      exact ⟨rfl, hrun⟩
    · rintro ⟨rfl, hrun⟩
      exact ⟨scenario, hrun, rfl, rfl⟩

/-- The ledger of a loaded scenario mirrors it, whenever and however often it is reconciled. -/
theorem Loaded.mirrored_of_run {times : List Instant} {scenario : Scenario} (h : a.Loaded)
    (hrun : Scenario.Run a.scenario times scenario) : scenario.Mirrored :=
  (hrun.held h.held).mirrored

/-- A shop that sells a novel at a quarter off, and an order to which the staff gave a discount. -/
def bookshop : ManifestKind → Except LoadError Document
  | .channels => .ok <| .map [("channels", .map [("uk", .map [
      ("currency", .text "GBP"),
      ("shipping_methods", .map [("post", .text "2.00 GBP")])])])]
  | .catalogue => .ok <| .map [("products", .map [("novel", .map [
      ("name", .text "Novel"),
      ("variants", .map [("paperback", .map [
        ("name", .text "Paperback"),
        ("prices", .map [("uk", .text "8.00 GBP")])])])])])]
  | .promotions => .ok <| .map [("promotions", .map [("sale", .map [
      ("id", .text "00000000-0000-0000-0000-000000000001"),
      ("start", .text "2024-01-01T00:00:00Z"),
      ("rules", .list [.map [
        ("channels", .list [.text "uk"]),
        ("catalogue", .map [("products", .list [.text "novel"])]),
        ("reward_value_type", .text "percentage"),
        ("reward_value", .text "25")]])])])]
  | .vouchers => .ok <| .map [("vouchers", .map [])]
  | .orders => .ok <| .map [("orders", .map [("first", .map [
      ("channel", .text "uk"),
      ("shipping_method", .text "post"),
      ("lines", .list [.map [("variant", .text "paperback"), ("quantity", .number "2")]]),
      ("manual_discount", .map [("value_type", .text "fixed"), ("value", .text "1.00")])])])]

/-- The order keeps the record of the staff, and its line gets one for the promotion. -/
theorem mirrored_bookshop : ∃ a scenario, ofSet bookshop = .ok a ∧
    Scenario.Run a.scenario [⟨1800000000000000000⟩] scenario ∧
    scenario.records.map (·.scope) = [.order, .line ⟨1⟩] ∧ scenario.Mirrored := by
  have hscopes : (match ofSet bookshop with
      | .ok a => match (Scenario.reconcile ⟨1800000000000000000⟩).runOn a.scenario with
        | (.ok (), scenario) => scenario.records.map (·.scope)
        | (.error _, _) => []
      | .error _ => []) = [.order, .line ⟨1⟩] := by
    decide +kernel
  split at hscopes
  · rename_i a hload
    split at hscopes
    · rename_i scenario hreconcile
      have hrun := Scenario.Run.snoc .nil hreconcile
      exact ⟨a, scenario, hload, hrun, hscopes, (loaded_ofSet hload).mirrored_of_run hrun⟩
    · contradiction
  · contradiction

end Assembly

end Retail
