import Retail.Proofs.Coherent.Sales
import Retail.Proofs.Purchase.Assembly
import Retail.Proofs.Voucher.Sequence

/-!
# Minimums to be spent

A set is refused where the price of a variant or of shipping is not in the currency of its channel,
so the totals by which vouchers are checked are in the currencies of their channels. The minimum of
a voucher is entered in whatever currency it is written, and one in another currency than that of
its channel never refuses a purchase.

## Main definitions

* `Scenario.OfChannel`: an amount in the currency of a channel
* `Scenario.Denominated`: prices and totals in the currencies of their channels
* `Scenario.MinimumsDenominated`: minimums in the currencies of their channels
* `Assembly.Offers`: the listing of a voucher as it is written

## Main results

* `Assembly.exists_vouchers_of_ofSet`: the vouchers of a set are those that are written
* `Assembly.Loaded.denominated_of_run`: prices and totals after any run
* `Assembly.denominated_of_ofSet`: which minimums are checked
* `Assembly.minimum_not_always_denominated`: a minimum that is not
-/

namespace Retail

/-! ## Currencies of channels -/

namespace Scenario

variable {scenario : Scenario} {key : ChannelKey} {m total : Money}

/-- The amount is in the currency of the channel under the key. -/
def OfChannel (scenario : Scenario) (key : ChannelKey) (m : Money) : Prop :=
  ∃ channel, scenario.channels.get? key = some channel ∧ m.currency = channel.currency

/-- The prices of variants and of shipping are in the currencies of their channels, and so are the
totals by which the vouchers of checkouts and orders are checked. -/
structure Denominated (scenario : Scenario) : Prop where
  variants : ∀ variant ∈ scenario.catalogue.variants.values, ∀ listing ∈ variant.prices,
    scenario.OfChannel listing.1 listing.2
  shipping : ∀ key channel, scenario.channels.get? key = some channel →
    ∀ price ∈ channel.shippingPrices, scenario.OfChannel key price.2
  checkouts : ∀ checkout ∈ scenario.checkouts, ∀ total,
    baseSubtotalAfterVouchers checkout.2.lines checkout.2.currency = .ok total →
      scenario.OfChannel checkout.2.channel total
  orders : ∀ order ∈ scenario.orders, scenario.OfChannel order.2.channel order.2.subtotal

/-- The minimums to be spent are in the currencies of the channels for which they are listed. -/
def MinimumsDenominated (scenario : Scenario) : Prop :=
  ∀ voucher ∈ scenario.vouchers.vouchers.values, ∀ listing ∈ voucher.listings, ∀ minimum,
    listing.2.minSpent = some minimum → scenario.OfChannel listing.1 minimum

/-- What is in the currency of the channel is in that of an amount that is. -/
theorem OfChannel.iff_currency_eq (h : scenario.OfChannel key total) :
    scenario.OfChannel key m ↔ m.currency = total.currency := by
  obtain ⟨channel, hchannel, hcurrency⟩ := h
  simp only [OfChannel, hchannel, Option.some.injEq, exists_eq_left', hcurrency]

end Scenario

/-- A total is refused that is below a minimum in its currency. -/
theorem Voucher.checkMinSpent_eq_error {voucher : Voucher} {key : ChannelKey}
    {listing : VoucherListing} {minimum total : Money}
    (hlisting : voucher.listing? key = some listing) (hminimum : listing.minSpent = some minimum) :
    voucher.checkMinSpent total key = .error (.minSpent minimum) ↔
      minimum.currency = total.currency ∧ total.minorUnits < minimum.minorUnits := by
  simp only [checkMinSpent, hlisting, hminimum]
  split <;> simp [*]

/-! ## The subtotal of an order -/

/-- The subtotal of lines is in the currency in which they are sold. -/
theorem currency_baseSubtotalAfterVouchers {lines : List Line} {currency : Currency} {total : Money}
    (h : baseSubtotalAfterVouchers lines currency = .ok total) : total.currency = currency := by
  obtain ⟨totals, -, htotal⟩ := bind_eq_ok.1 h
  rw [(Money.total_eq_ok.1 htotal).2]

/-- An order that was reconciled is charged in its currency. -/
theorem Order.currency_subtotal_reconcile {order order' : Order} {ledger ledger' : Ledger}
    {rest : List DiscountRecord} {promotions : Promotions} {vouchers : Vouchers} {now : Instant}
    {report : SyncReport} (hheld : order.toBasket.HeldIn ledger rest)
    (hregular : order.toBasket.Regular)
    (h : (reconcile promotions vouchers now).runOn (order, ledger) =
      (.ok report, (order', ledger'))) : order'.subtotal.currency = order'.currency := by
  obtain ⟨lines, settled, ledger₁, prices, charged, -, -, -, -, happly, -, rfl⟩ :=
    exists_settled hheld hregular h
  obtain ⟨undiscounted, updates, hundiscounted, hrecords, -⟩ :=
    priceRecords_of_applyDiscounts_eq_ok happly
  have hcharged : charged.currency = settled.currency := by
    rw [(charged_applyDiscounts happly).eq]
  calc (charged.shown vouchers).subtotal.currency
    _ = charged.subtotal.currency := by rw [shown_eq]
    _ = undiscounted.currency := (currencies_priceRecords hrecords).1
    _ = settled.currency := Basket.currency_subtotal hundiscounted
    _ = (charged.shown vouchers).currency := by rw [shown_eq, ← hcharged]

/-- Orders are charged in their currencies, whenever the scenario is reconciled. -/
theorem Scenario.Run.currency_subtotal {start scenario : Scenario} {times : List Instant}
    (h : Run start times scenario) (hheld : start.Held)
    (hregular : ∀ basket ∈ start.baskets, basket.Regular)
    (hstart : ∀ order ∈ start.orders, order.2.subtotal.currency = order.2.currency) :
    ∀ order ∈ scenario.orders, order.2.subtotal.currency = order.2.currency := by
  induction h with
  | nil => exact hstart
  | snoc hrun hreconcile _ =>
    intro order horder
    obtain ⟨-, -, horders⟩ := (hrun.held hheld).turns hreconcile
    obtain ⟨source, hsource, -, _, _, _, _, _, -, hin, hturn⟩ :=
      exists_left_of_forall₂ horders horder
    exact Order.currency_subtotal_reconcile hin
      (hrun.regular hheld hregular _ (mem_baskets_of_mem_orders hsource)) hturn

namespace Assembly

variable {a a' : Assembly} {documents : ManifestKind → Except LoadError Document}
  {scenario : Scenario} {times : List Instant}

/-- Orders are entered with a subtotal of nothing in their currency. -/
theorem invariant_currency_subtotal : Invariant fun a =>
    ∀ order ∈ a.scenario.orders, order.2.subtotal.currency = order.2.currency where
  empty := List.forall_mem_nil _
  sameSales h hprior := by
    rw [h.orders]
    exact hprior
  checkout h hprior := by
    obtain ⟨_, _, _, rfl, -⟩ := exists_of_addCheckout h
    exact hprior
  order h hprior := by
    simp only [addOrder, bind_eq_ok, pure_eq_ok, Prod.exists] at h
    obtain ⟨key, channel, -, _, lines, hlines, shipping, -, voucher, -, manual, -, rfl⟩ := h
    obtain ⟨_, rfl, -⟩ := exists_of_addLines hlines
    rcases henter : enterDiscounts _ ((voucher.map Prod.snd).toList ++ manual.toList) with
      ⟨_, records⟩
    obtain ⟨_, rfl, -, -⟩ := exists_of_enterDiscounts henter
    exact List.forall_mem_append.2 ⟨hprior, List.forall_mem_singleton.2 rfl⟩

/-- Prices and totals are in the currencies of their channels, whenever the scenario is
reconciled. -/
theorem Loaded.denominated_of_run (h : a.Loaded) (hrun : Scenario.Run a.scenario times scenario) :
    scenario.Denominated := by
  obtain ⟨-, hchannels, hprices, -⟩ := h.sound.1
  obtain ⟨hcheckouts, horders⟩ := h.coherent_of_run hrun
  have hsubtotals :=
    hrun.currency_subtotal h.held h.regular (h.invariant invariant_currency_subtotal)
  refine ⟨?_, ?_, fun checkout hcheckout total htotal => ?_, fun order horder => ?_⟩
  · rw [hrun.eq]
    intro variant hvariant listing hlisting
    obtain ⟨channel, hchannel, hin⟩ := hprices variant hvariant listing hlisting
    exact ⟨channel, hchannel, hin.currency_eq⟩
  · rw [hrun.eq]
    intro key channel hchannel price hprice
    have hmem : channel ∈ a.scenario.channels.values :=
      List.mem_map_of_mem (Registry.get?_eq_some.1 hchannel)
    exact ⟨channel, hchannel, (hchannels channel hmem price hprice).currency_eq⟩
  · obtain ⟨channel, hchannel, -, hcurrency⟩ := (hcheckouts checkout hcheckout).channel
    exact ⟨channel, hchannel, (currency_baseSubtotalAfterVouchers htotal).trans hcurrency.symm⟩
  · obtain ⟨channel, hchannel, -, hcurrency⟩ := (horders order horder).channel
    exact ⟨channel, hchannel, (hsubtotals order horder).trans hcurrency.symm⟩

/-! ## Documents without vouchers -/

theorem vouchers_foldlM {α : Type} {add : Assembly → α → Except LoadError Assembly}
    {entries : List α}
    (hadd : ∀ {a a' entry}, add a entry = .ok a' → a'.scenario.vouchers = a.scenario.vouchers)
    (h : entries.foldlM add a = .ok a') : a'.scenario.vouchers = a.scenario.vouchers :=
  foldlM_eq_ok_induction (P := fun later => later.scenario.vouchers = a.scenario.vouchers)
    (fun _ _ _ _ hstep hprior => (hadd hstep).trans hprior) h rfl

theorem vouchers_addShippingPrices {currency : Currency} {entries : Named String}
    {prices : List (ShippingMethodKey × Money)}
    (h : addShippingPrices currency a entries = .ok (a', prices)) :
    a'.scenario.vouchers = a.scenario.vouchers := by
  induction entries generalizing a prices with
  | nil =>
    simp only [addShippingPrices, Except.ok.injEq, Prod.mk.injEq] at h
    rw [h.1]
  | cons entry rest ih =>
    simp only [addShippingPrices, bind_eq_ok, pure_eq_ok, Prod.exists, Prod.mk.injEq] at h
    obtain ⟨price, -, _, more, hmore, rfl, -⟩ := h
    refine (ih hmore).trans ?_
    unfold ensureShippingMethod
    split <;> rfl

theorem vouchers_addChannel {entry : String × ChannelEntry} (h : a.addChannel entry = .ok a') :
    a'.scenario.vouchers = a.scenario.vouchers := by
  simp only [addChannel, bind_eq_ok, pure_eq_ok, Prod.exists] at h
  obtain ⟨currency, -, _, prices, hprices, rfl⟩ := h
  have hkept := vouchers_addShippingPrices hprices
  exact hkept

theorem vouchers_addVariant {product : ProductKey} {entry : String × VariantEntry}
    (h : addVariant product a entry = .ok a') : a'.scenario.vouchers = a.scenario.vouchers := by
  simp only [addVariant, bind_eq_ok, pure_eq_ok] at h
  obtain ⟨prices, -, rfl⟩ := h
  rfl

theorem vouchers_addProduct {entry : String × ProductEntry} (h : a.addProduct entry = .ok a') :
    a'.scenario.vouchers = a.scenario.vouchers := by
  simp only [addProduct, bind_eq_ok] at h
  obtain ⟨category, -, collections, -, h⟩ := h
  have hkept := vouchers_foldlM vouchers_addVariant h
  exact hkept

theorem vouchers_foldl {α : Type} {add : Assembly → α → Assembly} {entries : List α}
    (hadd : ∀ a entry, (add a entry).scenario.vouchers = a.scenario.vouchers) :
    (entries.foldl add a).scenario.vouchers = a.scenario.vouchers := by
  induction entries generalizing a with
  | nil => rfl
  | cons entry rest ih => exact ih.trans (hadd a entry)

theorem vouchers_addCatalogue {manifest : CatalogueManifest}
    (h : a.addCatalogue manifest = .ok a') : a'.scenario.vouchers = a.scenario.vouchers := by
  have hcategories : ∀ a name, (addCategory a name).scenario.vouchers = a.scenario.vouchers :=
    fun _ _ => rfl
  have hcollections : ∀ a name, (addCollection a name).scenario.vouchers = a.scenario.vouchers :=
    fun _ _ => rfl
  exact (vouchers_foldlM vouchers_addProduct h).trans
    ((vouchers_foldl hcollections).trans (vouchers_foldl hcategories))

theorem vouchers_addRule {promotion : PromotionKey} {entry : RuleEntry}
    (h : addRule promotion a entry = .ok a') : a'.scenario.vouchers = a.scenario.vouchers := by
  simp only [addRule, bind_eq_ok, pure_eq_ok, Prod.exists] at h
  obtain ⟨_, -, _, -, _, -, _, _, -, rfl⟩ := h
  rfl

theorem vouchers_addPromotion {entry : String × PromotionEntry}
    (h : a.addPromotion entry = .ok a') : a'.scenario.vouchers = a.scenario.vouchers := by
  simp only [addPromotion, bind_eq_ok, pure_eq_ok] at h
  obtain ⟨_, -, _, hrules, rfl⟩ := h
  have hkept := vouchers_foldlM vouchers_addRule hrules
  exact hkept

theorem vouchers_addPromotions {entries : Named PromotionEntry}
    (h : a.addPromotions entries = .ok a') : a'.scenario.vouchers = a.scenario.vouchers := by
  simp only [addPromotions, bind_eq_ok, pure_eq_ok, Prod.exists] at h
  obtain ⟨_, hpromotions, _, _, -, rfl⟩ := h
  have hkept := vouchers_foldlM vouchers_addPromotion hpromotions
  exact hkept

theorem vouchers_load {kind : ManifestKind} {document : Except LoadError Document}
    (hkind : kind ≠ .vouchers) (h : a.load kind document = .ok a') :
    a'.scenario.vouchers = a.scenario.vouchers := by
  obtain ⟨_, manifest, -, hmanifest, hadd⟩ := exists_of_load h
  cases manifest with
  | channels entries => exact vouchers_foldlM vouchers_addChannel hadd
  | catalogue manifest => exact vouchers_addCatalogue hadd
  | promotions entries => exact vouchers_addPromotions hadd
  | vouchers entries => cases kind <;> simp [Manifest.ofDocument?] at hmanifest hkind
  | orders sales => rw [sameShop_addSales hadd]

/-! ## The vouchers of a set -/

/-- The listing is for the channel that is written, with the minimum as it is written. -/
structure Offers (a : Assembly) (written : String × ListingEntry)
    (listing : ChannelKey × VoucherListing) : Prop where
  channel : a.channelKey written.1 = .ok listing.1
  minSpent : written.2.minSpent.mapM readPrice = .ok listing.2.minSpent

/-- The voucher lists what is written of it. -/
def OffersAll (a : Assembly) (entry : String × VoucherEntry) (voucher : Voucher) : Prop :=
  List.Forall₂ a.Offers entry.2.listings voucher.listings

theorem OffersAll.of_channels {entry : String × VoucherEntry} {voucher : Voucher}
    (hchannels : a'.channels = a.channels) (h : a'.OffersAll entry voucher) :
    a.OffersAll entry voucher := by
  refine h.imp fun written listing ⟨hchannel, hminimum⟩ => ⟨?_, hminimum⟩
  rwa [channelKey, hchannels] at hchannel

theorem offers_of_voucherListing {written : String × ListingEntry}
    {listing : ChannelKey × VoucherListing} (h : a.voucherListing written = .ok listing) :
    a.Offers written listing := by
  simp only [voucherListing, bind_eq_ok, pure_eq_ok] at h
  obtain ⟨minimum, hminimum, key, hkey, value, -, rfl⟩ := h
  exact ⟨hkey, hminimum⟩

theorem exists_of_addVoucher {entry : String × VoucherEntry} (h : a.addVoucher entry = .ok a') :
    a'.channels = a.channels ∧ ∃ voucher,
      a'.scenario.vouchers.vouchers.values = a.scenario.vouchers.vouchers.values ++ [voucher] ∧
      a.OffersAll entry voucher := by
  simp only [addVoucher, bind_eq_ok, pure_eq_ok] at h
  obtain ⟨listings, hlistings, coded, hcodes, rfl⟩ := h
  have hentered : ∃ voucher : Voucher, voucher.listings = listings ∧
      coded.channels = a.channels ∧
      coded.scenario.vouchers.vouchers = a.scenario.vouchers.vouchers.push voucher := by
    refine ⟨_, ?_, foldlM_eq_ok_induction
      (P := fun later : Assembly => later.channels = a.channels ∧
        later.scenario.vouchers.vouchers = a.scenario.vouchers.vouchers.push _)
      ?_ hcodes ⟨rfl, rfl⟩⟩
    · rfl
    · intro text _ before after hcode hprior
      simp only [addCode, bind_eq_ok, pure_eq_ok, mapError_eq_ok, Prod.exists] at hcode
      obtain ⟨vouchers, key, hcode, rfl⟩ := hcode
      obtain ⟨-, -, -, rfl⟩ := Vouchers.addCode_eq_ok.1 hcode
      exact hprior
  obtain ⟨voucher, rfl, hchannels, hvouchers⟩ := hentered
  refine ⟨hchannels, voucher, ?_, (mapM_eq_ok.1 hlistings).imp fun _ _ => offers_of_voucherListing⟩
  simp only [hvouchers, Registry.values, Registry.push, List.map_append, List.map_singleton]

/-- The vouchers of a set are those that are written in its document, in the same order. -/
theorem exists_vouchers_of_ofSet (h : ofSet documents = .ok a) :
    ∃ document entries, documents .vouchers = .ok document ∧
      voucherEntries? document = some entries ∧
      List.Forall₂ a.OffersAll entries a.scenario.vouchers.vouchers.values := by
  simp only [ofSet, ManifestKind.all, List.foldlM_cons, List.foldlM_nil, bind_eq_ok,
    pure_eq_ok] at h
  obtain ⟨_, hchannels, _, hcatalogue, shop, hpromotions, offering, hvouchers, _, hsales, rfl⟩ := h
  have hnone : shop.scenario.vouchers = .empty :=
    ((vouchers_load (by decide) hpromotions).trans (vouchers_load (by decide) hcatalogue)).trans
      (vouchers_load (by decide) hchannels)
  obtain ⟨document, _, hdocument, hmanifest, hadd⟩ := exists_of_load hvouchers
  obtain ⟨entries, hread, rfl⟩ := Option.map_eq_some_iff.1 hmanifest
  refine ⟨document, entries, hdocument, hread, ?_⟩
  obtain ⟨hkept, vouchers, hentered, hoffers⟩ := exists_forall₂_of_foldlM_eq_ok
    (K := fun a a' : Assembly => a'.channels = a.channels) (R := OffersAll)
    (·.scenario.vouchers.vouchers.values) (fun _ => rfl) (fun h h' => h'.trans h)
    exists_of_addVoucher OffersAll.of_channels hadd
  obtain ⟨_, _, -, hmanifest, hadd⟩ := exists_of_load hsales
  obtain ⟨sales, -, rfl⟩ := Option.map_eq_some_iff.1 hmanifest
  have hshop := sameShop_addSales hadd
  rw [hnone, show Vouchers.empty.vouchers.values = [] from rfl, List.nil_append] at hentered
  rw [hshop, hentered]
  refine hoffers.imp fun entry voucher => OffersAll.of_channels ?_
  exact hkept.symm

/-! ## Minimums -/

/-- What is written for a channel passes as a price of the channel exactly if it is in its
currency. -/
theorem exists_listedPrice_iff {name text : String} {key : ChannelKey} {price : Money}
    (hcoherent : a.Coherent) (hkey : a.channelKey name = .ok key)
    (hprice : readPrice text = .ok price) :
    (∃ listing, a.listedPrice (name, text) = .ok listing) ↔ a.scenario.OfChannel key price := by
  obtain ⟨channel, hchannel⟩ := hcoherent.exists_channel hkey
  simp only [listedPrice, hkey, hchannel, bind_eq_ok, Except.ok.injEq, exists_eq_left', pure_eq_ok,
    priceIn_eq_ok, hprice, Scenario.OfChannel, Option.some.injEq]
  constructor
  · rintro ⟨_, _, ⟨rfl, hcurrency⟩, -⟩
    exact hcurrency
  · intro hcurrency
    exact ⟨_, price, ⟨rfl, hcurrency⟩, rfl⟩

/-- The minimums are in the currencies of their channels exactly if each of them would pass as a
price. -/
theorem minimumsDenominated_iff {entries : Named VoucherEntry} (hcoherent : a.Coherent)
    (h : List.Forall₂ a.OffersAll entries a.scenario.vouchers.vouchers.values) :
    a.scenario.MinimumsDenominated ↔
      ∀ entry ∈ entries, ∀ written ∈ entry.2.listings, ∀ text, written.2.minSpent = some text →
        ∃ listing, a.listedPrice (written.1, text) = .ok listing := by
  refine (forall_mem_iff_of_forall₂ h fun entry voucher hlistings =>
    forall_mem_iff_of_forall₂ hlistings fun written listing hoffers => ?_).symm
  have hminimum := hoffers.minSpent
  cases hwritten : written.2.minSpent with
  | none =>
    rw [hwritten, Option.mapM_none, pure_eq_ok] at hminimum
    simp [← hminimum]
  | some text =>
    simp only [hwritten, Option.mapM_some, map_eq_pure_bind, bind_eq_ok, pure_eq_ok] at hminimum
    obtain ⟨minimum, hread, hminimum⟩ := hminimum
    simp only [← hminimum, Option.some.injEq, forall_eq']
    exact exists_listedPrice_iff hcoherent hoffers.channel hread

/-- The prices of a set that is accepted are in the currencies of their channels, and so are, at any
time, the totals by which vouchers are checked. The minimums to be spent are exactly if each of them
is written as a price of its channel must be. A total of the channel is refused exactly if it is
below a minimum in the currency of the channel; a minimum in another currency refuses none. -/
theorem denominated_of_ofSet (hload : ofSet documents = .ok a)
    (hrun : Scenario.Run a.scenario times scenario) :
    scenario.Denominated ∧
    (∃ document entries, documents .vouchers = .ok document ∧
      voucherEntries? document = some entries ∧
      (scenario.MinimumsDenominated ↔
        ∀ entry ∈ entries, ∀ written ∈ entry.2.listings, ∀ text, written.2.minSpent = some text →
          ∃ listing, a.listedPrice (written.1, text) = .ok listing)) ∧
    ∀ (voucher : Voucher) key listing minimum total,
      voucher.listing? key = some listing → listing.minSpent = some minimum →
      scenario.OfChannel key total →
        (voucher.checkMinSpent total key = .error (.minSpent minimum) ↔
          scenario.OfChannel key minimum ∧ total.minorUnits < minimum.minorUnits) := by
  have hloaded := loaded_ofSet hload
  obtain ⟨document, entries, hdocument, hread, hoffers⟩ := exists_vouchers_of_ofSet hload
  refine ⟨hloaded.denominated_of_run hrun, ⟨document, entries, hdocument, hread, ?_⟩, ?_⟩
  · rw [← minimumsDenominated_iff hloaded.sound.1 hoffers, hrun.eq]
    rfl
  · intro voucher key listing minimum total hlisting hminimum htotal
    rw [Voucher.checkMinSpent_eq_error hlisting hminimum, htotal.iff_currency_eq]

/-- The bookshop with a voucher of a quarter for purchases of a minimum. -/
def minimumShop (minimum : String) : ManifestKind → Except LoadError Document
  | .vouchers => .ok <| .map [("vouchers", .map [("quarter", .map [
      ("type", .text "entire_order"),
      ("discount_value_type", .text "percentage"),
      ("start", .text "2024-01-01T00:00:00Z"),
      ("channels", .map [("uk", .map [
        ("discount_value", .text "25"), ("min_spent", .text minimum)])]),
      ("codes", .list [.text "QUARTER"])])])]
  | kind => voucherShop "entire_order" kind

/-- A minimum in pounds is checked, and a checkout of eight pounds loses the voucher. -/
theorem denominated_minimumShop : ∃ a scenario,
    ofSet (minimumShop "20.00 GBP") = .ok a ∧
    Scenario.Run a.scenario [⟨1800000000000000000⟩] scenario ∧
    scenario.Denominated ∧ scenario.MinimumsDenominated ∧
    (∃ voucher ∈ scenario.vouchers.vouchers.values,
      voucher.checkMinSpent ⟨800, .gbp⟩ ⟨1⟩ = .error (.minSpent ⟨2000, .gbp⟩)) ∧
    (scenario.checkout? "first").map (·.voucherCode) = some none := by
  have hcomputed : (replay? (minimumShop "20.00 GBP") [⟨1800000000000000000⟩]).any
      (fun (a, scenario) => a.listedPrice ("uk", "20.00 GBP") = .ok (⟨1⟩, ⟨2000, .gbp⟩) ∧
        (scenario.vouchers.vouchers.values.map fun voucher =>
          (voucher.listing? ⟨1⟩).map (·.minSpent)) = [some (some ⟨2000, .gbp⟩)] ∧
        (scenario.channels.get? ⟨1⟩).map (·.currency) = some .gbp ∧
        (scenario.checkout? "first").map (·.voucherCode) = some none) := by
    decide +kernel
  obtain ⟨⟨a, scenario⟩, hreplay, hshown⟩ := (Option.any_eq_true _ _).1 hcomputed
  obtain ⟨hload, hrun⟩ := replay?_eq_some.1 hreplay
  obtain ⟨hpasses, hvouchers, hchannel, hcheckout⟩ := of_decide_eq_true hshown
  obtain ⟨voucher, hvalues, hvoucher⟩ := List.map_eq_singleton_iff.1 hvouchers
  obtain ⟨listing, hlisting, hminimum⟩ := Option.map_eq_some_iff.1 hvoucher
  obtain ⟨channel, hfound, hcurrency⟩ := Option.map_eq_some_iff.1 hchannel
  obtain ⟨hdenominated, ⟨document, entries, hdocument, hread, hiff⟩, hchecked⟩ :=
    denominated_of_ofSet hload hrun
  have hmem : voucher ∈ scenario.vouchers.vouchers.values := hvalues ▸ List.mem_singleton_self _
  have hpounds {minor : Int} : scenario.OfChannel ⟨1⟩ ⟨minor, .gbp⟩ :=
    ⟨channel, hfound, hcurrency.symm⟩
  refine ⟨a, scenario, hload, hrun, hdenominated, hiff.2 ?_, ⟨voucher, hmem, ?_⟩, hcheckout⟩
  · obtain rfl := Except.ok.inj hdocument
    obtain rfl := Option.some.inj hread
    intro entry hentry written hwritten text htext
    obtain rfl := List.mem_singleton.1 hentry
    obtain rfl := List.mem_singleton.1 hwritten
    obtain rfl := Option.some.inj htext
    exact ⟨_, hpasses⟩
  · exact (hchecked voucher ⟨1⟩ listing ⟨2000, .gbp⟩ ⟨800, .gbp⟩ hlisting hminimum hpounds).2
      ⟨hpounds, by decide⟩

/-- A minimum in dollars is entered for a channel that sells in pounds, and is not checked: a
checkout of eight pounds keeps the voucher, for which it would have to be a thousand dollars. -/
theorem minimum_not_always_denominated : ∃ a scenario voucher listing channel checkout,
    ofSet (minimumShop "1000.00 USD") = .ok a ∧
    (Scenario.reconcile ⟨1800000000000000000⟩).runOn a.scenario = (.ok (), scenario) ∧
    a.scenario.vouchers.vouchers.get? ⟨1⟩ = some voucher ∧
    voucher.listing? ⟨1⟩ = some listing ∧ listing.minSpent = some ⟨100000, .usd⟩ ∧
    a.scenario.channels.get? ⟨1⟩ = some channel ∧ channel.currency = .gbp ∧
    ¬a.scenario.MinimumsDenominated ∧
    voucher.checkMinSpent ⟨800, .gbp⟩ ⟨1⟩ = .ok () ∧
    scenario.checkout? "first" = some checkout ∧ checkout.channel = ⟨1⟩ ∧
    baseSubtotalAfterVouchers checkout.lines checkout.currency = .ok ⟨800, .gbp⟩ ∧
    checkout.voucher = some ⟨1⟩ ∧ checkout.discount.amount = ⟨200, .gbp⟩ := by
  have hcomputed : (replay? (minimumShop "1000.00 USD") [⟨1800000000000000000⟩]).any
      (fun (a, scenario) => ((a.scenario.vouchers.vouchers.get? ⟨1⟩).map fun voucher =>
          ((voucher.listing? ⟨1⟩).map (·.minSpent), voucher.checkMinSpent ⟨800, .gbp⟩ ⟨1⟩)) =
            some (some (some ⟨100000, .usd⟩), .ok ()) ∧
        (a.scenario.channels.get? ⟨1⟩).map (·.currency) = some .gbp ∧
        ((scenario.checkout? "first").map fun checkout => (checkout.channel,
          baseSubtotalAfterVouchers checkout.lines checkout.currency, checkout.voucher,
          checkout.discount.amount)) = some (⟨1⟩, .ok ⟨800, .gbp⟩, some ⟨1⟩, ⟨200, .gbp⟩)) := by
    decide +kernel
  obtain ⟨⟨a, scenario⟩, hreplay, hshown⟩ := (Option.any_eq_true _ _).1 hcomputed
  obtain ⟨hload, hrun⟩ := replay?_eq_some.1 hreplay
  obtain ⟨hvoucher, hchannel, hcheckout⟩ := of_decide_eq_true hshown
  obtain ⟨voucher, hvoucher, hshown⟩ := Option.map_eq_some_iff.1 hvoucher
  obtain ⟨hlisting, hpasses⟩ := Prod.mk.inj hshown
  obtain ⟨listing, hlisting, hminimum⟩ := Option.map_eq_some_iff.1 hlisting
  obtain ⟨channel, hchannel, hcurrency⟩ := Option.map_eq_some_iff.1 hchannel
  obtain ⟨checkout, hcheckout, hshown⟩ := Option.map_eq_some_iff.1 hcheckout
  simp only [Prod.mk.injEq] at hshown
  obtain ⟨hof, htotal, hredeems, hamount⟩ := hshown
  refine ⟨a, scenario, voucher, listing, channel, checkout, hload,
    Scenario.run_singleton_iff.1 hrun, hvoucher, hlisting, hminimum, hchannel, hcurrency,
    fun hall => ?_, hpasses, hcheckout, hof, htotal, hredeems, hamount⟩
  obtain ⟨found, hfound, hsame⟩ := hall voucher
    (List.mem_map_of_mem (Registry.get?_eq_some.1 hvoucher)) _ (exists_mem_of_lookup hlisting) _
    hminimum
  obtain rfl := Option.some.inj (hchannel.symm.trans hfound)
  rw [hcurrency] at hsame
  exact absurd hsame (by decide)

end Assembly

end Retail
