import Retail.Proofs.Fresh
import Retail.Proofs.Purchase.Sales

/-!
# One purchase in the manifest of sales

A checkout and an order that are written down with the same lines, shipping method and voucher code
are of one purchase, so they come to the same whenever the scenario is reconciled. Of a voucher for
single products the order knows nothing.

## Main definitions

* `BasketEntry.SamePurchase`: entries of one purchase

## Main results

* `Assembly.Opens.samePurchase`: what is entered for one purchase
* `Assembly.exists_of_addSales`: what is entered for a manifest
* `Assembly.comesTo_of_run`: checkout and order come to the same
* `Assembly.orderTotal_differs`: but not with a voucher of single products
-/

namespace Retail

/-- The entries are of the same lines in one channel, with the same shipping method and the same
voucher code. -/
structure BasketEntry.SamePurchase (entry other : BasketEntry) : Prop where
  channel : other.channel = entry.channel
  lines : other.lines = entry.lines
  shippingMethod : other.shippingMethod = entry.shippingMethod
  voucherCode : other.voucherCode = entry.voucherCode

namespace Assembly

variable {a a' : Assembly} {channelKey : ChannelKey} {channel : Channel}

/-- Lines of one entry are of the same wares. -/
theorem Sells.sameWares {entry : LineEntry} {line other : Line} (h : a.Sells channelKey entry line)
    (h' : a.Sells channelKey entry other) : line.SameWares other := by
  have hvariant : other.variant = line.variant :=
    Except.ok.inj (h'.variant.symm.trans h.variant)
  have hprice := h'.price
  rw [hvariant, h.price] at hprice
  exact ⟨hvariant, h'.quantity.trans h.quantity.symm, (Option.some.inj hprice).symm⟩

/-! ## All of them -/

theorem exists_of_addCheckouts {entries : Named BasketEntry}
    (h : entries.foldlM addCheckout a = .ok a') :
    a.SameShop a' ∧ a'.scenario.orders = a.scenario.orders ∧
      ∃ checkouts, a'.scenario.checkouts = a.scenario.checkouts ++ checkouts ∧
        List.Forall₂ (fun entry checkout => checkout.1 = entry.1 ∧
          ∃ channel, a.Opens entry.2 checkout.2 channel) entries checkouts := by
  refine and_assoc.1 (exists_forall₂_of_foldlM_eq_ok
    (K := fun a a' : Assembly => a.SameShop a' ∧ a'.scenario.orders = a.scenario.orders)
    (R := fun a entry checkout => checkout.1 = entry.1 ∧
      ∃ channel, a.Opens entry.2 checkout.2 channel)
    (·.scenario.checkouts) ?_ ?_ ?_ ?_ h)
  · exact fun a => ⟨.refl a, rfl⟩
  · exact fun ⟨hshop, hkept⟩ ⟨hshop', hkept'⟩ => ⟨hshop.trans hshop', hkept'.trans hkept⟩
  · intro a a' entry h
    obtain ⟨_, checkout, channel, rfl, hopens⟩ := exists_of_addCheckout h
    exact ⟨⟨rfl, rfl⟩, _, rfl, rfl, channel, hopens⟩
  · exact fun hkeeps => And.imp_right (Exists.imp fun _ => hkeeps.1.opens)

theorem exists_of_addOrders {entries : Named OrderEntry}
    (h : entries.foldlM addOrder a = .ok a') :
    a.SameShop a' ∧ a'.scenario.checkouts = a.scenario.checkouts ∧
      ∃ orders, a'.scenario.orders = a.scenario.orders ++ orders ∧
        List.Forall₂ (fun entry order => order.1 = entry.1 ∧
          ∃ channel, a.Places entry.2 order.2 channel) entries orders := by
  refine and_assoc.1 (exists_forall₂_of_foldlM_eq_ok
    (K := fun a a' : Assembly => a.SameShop a' ∧ a'.scenario.checkouts = a.scenario.checkouts)
    (R := fun a entry order => order.1 = entry.1 ∧ ∃ channel, a.Places entry.2 order.2 channel)
    (·.scenario.orders) ?_ ?_ ?_ ?_ h)
  · exact fun a => ⟨.refl a, rfl⟩
  · exact fun ⟨hshop, hkept⟩ ⟨hshop', hkept'⟩ => ⟨hshop.trans hshop', hkept'.trans hkept⟩
  · intro a a' entry h
    obtain ⟨_, _, order, channel, rfl, -, hplaces⟩ := exists_of_addOrder h
    exact ⟨⟨rfl, rfl⟩, _, rfl, rfl, channel, hplaces⟩
  · exact fun hkeeps => And.imp_right (Exists.imp fun _ => hkeeps.1.places)

/-- The entries of a manifest become checkouts and orders, in the order of their names. -/
theorem exists_of_addSales {manifest : SalesManifest} (h : a.addSales manifest = .ok a')
    (hcheckouts : a.scenario.checkouts = []) (horders : a.scenario.orders = []) :
    a.SameShop a' ∧
      List.Forall₂ (fun entry checkout => checkout.1 = entry.1 ∧
        ∃ channel, a.Opens entry.2 checkout.2 channel)
        (byName manifest.checkouts) a'.scenario.checkouts ∧
      List.Forall₂ (fun entry order => order.1 = entry.1 ∧
        ∃ channel, a.Places entry.2 order.2 channel)
        (byName manifest.orders) a'.scenario.orders := by
  simp only [addSales, bind_eq_ok] at h
  obtain ⟨a₁, hfirst, hsecond⟩ := h
  obtain ⟨hshop, hnone, checkouts, hentered, hopens⟩ := exists_of_addCheckouts hfirst
  obtain ⟨hshop', hkept, orders, hentered', hplaces⟩ := exists_of_addOrders hsecond
  rw [hcheckouts, List.nil_append] at hentered
  rw [hnone, horders, List.nil_append] at hentered'
  rw [hkept, hentered, hentered']
  exact ⟨hshop.trans hshop', hopens,
    hplaces.imp fun _ _ => And.imp_right (Exists.imp fun _ => hshop.places)⟩

/-- Only the document of checkouts and orders brings any. -/
theorem sameSales_load {kind : ManifestKind} {document : Except LoadError Document}
    (hkind : kind ≠ .orders) (h : a.load kind document = .ok a') : a.SameSales a' := by
  obtain ⟨_, _, -, hmanifest, hadd⟩ := exists_of_load h
  rcases sameSales_or_orders_of_add hadd with hsame | ⟨sales, rfl, -⟩
  · exact hsame
  · cases kind <;> simp [Manifest.ofDocument?] at hmanifest hkind

/-- In a set, checkouts and orders are entered last. -/
theorem exists_addSales_of_ofSet {documents : ManifestKind → Except LoadError Document}
    (h : ofSet documents = .ok a') :
    ∃ (a : Assembly) (document : Document) (manifest : SalesManifest),
      documents .orders = .ok document ∧ SalesManifest.ofDocument? document = some manifest ∧
      a.scenario.checkouts = [] ∧ a.scenario.orders = [] ∧ a.addSales manifest = .ok a' := by
  simp only [ofSet, ManifestKind.all, List.foldlM_cons, List.foldlM_nil, bind_eq_ok,
    pure_eq_ok] at h
  obtain ⟨_, hchannels, _, hcatalogue, _, hpromotions, a, hvouchers, _, hsales, rfl⟩ := h
  have hsame := (((sameSales_load (by decide) hchannels).trans
    (sameSales_load (by decide) hcatalogue)).trans
    (sameSales_load (by decide) hpromotions)).trans (sameSales_load (by decide) hvouchers)
  obtain ⟨document, _, hdocument, hmanifest, hadd⟩ := exists_of_load hsales
  obtain ⟨manifest, hread, rfl⟩ := Option.map_eq_some_iff.1 hmanifest
  exact ⟨a, document, manifest, hdocument, hread, hsame.checkouts, hsame.orders, hadd⟩

/-! ## One purchase -/

section Purchase

variable {entry : BasketEntry} {other : OrderEntry} {checkout : Checkout} {order : Order}
  {channel' : Channel}

/-- Shipping by a method that is listed costs a checkout what it costs an order. -/
theorem Opens.deliveryPrice (hopens : a.Opens entry checkout channel) {shipping : Option Money}
    (h : entry.shippingMethod.mapM (a.shippingPrice channel) = .ok shipping) :
    checkout.deliveryPrice channel = shipping.getD (.zero channel.currency) := by
  have hmethod := hopens.shippingMethod
  rw [Checkout.deliveryPrice, if_pos hopens.isShippingRequired, hopens.currency]
  cases hname : entry.shippingMethod with
  | none =>
    simp only [hname, Option.mapM_none, pure_eq_ok] at h hmethod
    rw [← hmethod, ← h]
    rfl
  | some name =>
    simp only [hname, Option.mapM_some, map_eq_pure_bind, bind_eq_ok, pure_eq_ok] at h hmethod
    obtain ⟨key, hkey, hmethod⟩ := hmethod
    obtain ⟨price, hprice, rfl⟩ := h
    simp only [shippingPrice, hkey, bind_eq_ok, Except.ok.injEq, exists_eq_left'] at hprice
    rw [← hmethod]
    cases hlisted : channel.shippingPrice key with
    | none => simp [hlisted] at hprice
    | some listed =>
      simp only [hlisted, Option.elim_some, Except.ok.injEq] at hprice
      simp [hlisted, hprice]

/-- An order that is placed with a voucher code, and to which the staff gave no discount, has the
record of the voucher and no other. -/
theorem Places.redeems (h : a.Places other order channel) (hmanual : other.manual = none)
    {text : String} (hcode : other.voucherCode = some text) :
    ∃ key voucher, a.voucherOfCode text = .ok key ∧
      order.Redeems a.scenario.vouchers key voucher := by
  obtain ⟨found, manual, hfound, hgiven, hrecords⟩ := h.discounts
  simp only [hmanual, Option.mapM_none, pure_eq_ok] at hgiven
  subst hgiven
  simp only [hcode, Option.mapM_some, map_eq_pure_bind, bind_eq_ok, pure_eq_ok] at hfound
  obtain ⟨⟨key, discount⟩, hdiscount, rfl⟩ := hfound
  obtain ⟨voucher, value, hkey, hvoucher, hvalue, rfl⟩ := voucherDiscount_eq_ok.1 hdiscount
  simp only [Option.map_some, Option.toList_some, Option.toList_none, List.append_nil] at hrecords
  obtain ⟨record, hone, hrecord⟩ := List.map_eq_singleton_iff.1 hrecords
  have hrecorded : voucher.Recorded key order.channel record := by
    refine ⟨congrArg Discount.kind hrecord, congrArg Discount.voucher hrecord, ?_⟩
    rw [hrecord]
    exact hvalue
  refine ⟨key, voucher, hkey, ?_, hvoucher, record, ?_, hrecorded⟩
  · rw [h.voucherCode, hcode]
    rfl
  · rw [Basket.otherDiscounts, hone]
    simp [hrecorded.kind]

/-- What is entered for one purchase with a voucher, if the staff gave no discount. -/
theorem Opens.samePurchase (hopens : a.Opens entry checkout channel)
    (hplaces : a.Places other order channel') (hsame : entry.SamePurchase other.toBasketEntry)
    (hcode : entry.voucherCode.isSome) (hmanual : other.manual = none) :
    checkout.SamePurchase channel a.scenario.vouchers order := by
  obtain ⟨text, htext⟩ := Option.isSome_iff_exists.1 hcode
  have hchannel := hplaces.channel_eq
  rw [hsame.channel, hopens.channel_eq] at hchannel
  obtain ⟨hkey, rfl⟩ := Prod.mk.inj (Except.ok.inj hchannel)
  obtain ⟨shipping, hshipping, hprice⟩ := hplaces.shipping
  rw [hsame.shippingMethod] at hshipping
  obtain ⟨key, voucher, hvoucher, hredeems⟩ :=
    hplaces.redeems hmanual (hsame.voucherCode.trans htext)
  refine ⟨hkey.symm, hplaces.currency.trans hopens.currency.symm, ?_, hopens.isShippingRequired,
    hprice.trans (hopens.deliveryPrice hshipping).symm, key, voucher, ?_, hredeems⟩
  · have hlines := hplaces.lines
    rw [hsame.lines, ← hkey] at hlines
    exact forall₂_trans hopens.lines.flip hlines fun _ _ _ h h' => h.sameWares h'
  · have hfound := hopens.voucher
    simp only [htext, Option.mapM_some, map_eq_pure_bind, bind_eq_ok, pure_eq_ok, hvoucher,
      Except.ok.injEq, exists_eq_left'] at hfound
    exact hfound.symm

/-- What is written down once under a name is found under it. -/
theorem find?_byName {ε : Type} {entries : Named ε} {name : String} {entry : ε}
    (hnames : (entries.map Prod.fst).Nodup) (hentry : (name, entry) ∈ entries) :
    ((byName entries).find? (·.1 == name)).map Prod.snd = some entry := by
  have hperm : (byName entries).Perm entries := List.mergeSort_perm entries _
  have hfound : (byName entries).find? (·.1 == name) = some (name, entry) :=
    (find?_key_eq_some ((hperm.map Prod.fst).nodup_iff.2 hnames)).2 ⟨hperm.mem_iff.2 hentry, rfl⟩
  rw [hfound]
  rfl

/-- A checkout and an order that are written down with the same lines, shipping method and voucher
code come to the same whenever the scenario is reconciled, as long as the checkout keeps the voucher
and the staff gives no discount. -/
theorem comesTo_of_run {documents : ManifestKind → Except LoadError Document}
    {document : Document} {manifest : SalesManifest} {name name' : String} {times : List Instant}
    {now : Instant} {scenario : Scenario} (hload : ofSet documents = .ok a)
    (hdocument : documents .orders = .ok document)
    (hread : SalesManifest.ofDocument? document = some manifest)
    (hnames : (manifest.checkouts.map Prod.fst).Nodup)
    (hnames' : (manifest.orders.map Prod.fst).Nodup) (hentry : (name, entry) ∈ manifest.checkouts)
    (hother : (name', other) ∈ manifest.orders) (hsame : entry.SamePurchase other.toBasketEntry)
    (hcode : entry.voucherCode.isSome) (hmanual : other.manual = none)
    (hrun : Scenario.Run a.scenario (times ++ [now]) scenario) :
    ∃ checkout order, scenario.checkout? name = some checkout ∧
      scenario.order? name' = some order ∧
      (checkout.voucherCode.isSome → checkout.ComesTo scenario.vouchers order) := by
  obtain ⟨a₀, _, _, hdocument', hread', hcheckouts, horders, hsales⟩ :=
    exists_addSales_of_ofSet hload
  obtain rfl := Except.ok.inj (hdocument.symm.trans hdocument')
  obtain rfl := Option.some.inj (hread.symm.trans hread')
  obtain ⟨hshop, hopened, hplaced⟩ := exists_of_addSales hsales hcheckouts horders
  obtain ⟨checkout, hcheckout, channel, hopens⟩ :=
    Scenario.exists_of_forall₂_names (R := fun e c => ∃ channel, a₀.Opens e c channel) hopened
      (find?_byName hnames hentry)
  obtain ⟨order, horder, _, hplaces⟩ :=
    Scenario.exists_of_forall₂_names (R := fun e o => ∃ channel, a₀.Places e o channel) hplaced
      (find?_byName hnames' hother)
  have hpurchase := hopens.samePurchase hplaces hsame hcode hmanual
  have hchannel := get?_of_channel_eq_ok hopens.channel_eq
  have hloaded := loaded_ofSet hload
  have hchannels : a.scenario.channels = a₀.scenario.channels := by rw [hshop]
  have hvouchers : a.scenario.vouchers = a₀.scenario.vouchers := by rw [hshop]
  exact hrun.comesTo hloaded.held hloaded.regular hcheckout horder (hchannels ▸ hchannel)
    (hvouchers ▸ hpurchase)

end Purchase

/-- A paperback by post, with a voucher. -/
def quarterOff : BasketEntry where
  channel := "uk"
  email := none
  customer := none
  language := none
  shippingMethod := some "post"
  voucherCode := some "QUARTER"
  lines := [⟨"paperback", 1⟩]

/-- The paperback as it is written down, for a checkout and for an order. -/
def quarterOffSales : Document :=
  let entry := .map [
    ("channel", .text "uk"),
    ("shipping_method", .text "post"),
    ("voucher_code", .text "QUARTER"),
    ("lines", .list [.map [("variant", .text "paperback"), ("quantity", .number "1")]])]
  .map [("checkouts", .map [("first", entry)]), ("orders", .map [("second", entry)])]

/-- The bookshop with a voucher of a quarter, which is redeemed in the checkout and in the order. -/
def voucherShop (voucherType : String) : ManifestKind → Except LoadError Document
  | .promotions => .ok <| .map [("promotions", .map [])]
  | .vouchers => .ok <| .map [("vouchers", .map [("quarter", .map [
      ("type", .text voucherType),
      ("discount_value_type", .text "percentage"),
      ("start", .text "2024-01-01T00:00:00Z"),
      ("channels", .map [("uk", .map [("discount_value", .text "25")])]),
      ("codes", .list [.text "QUARTER"])])])]
  | .orders => .ok quarterOffSales
  | kind => bookshop kind

/-- A quarter of the subtotal is taken off both. -/
theorem comesTo_voucherShop : ∃ a scenario checkout order,
    ofSet (voucherShop "entire_order") = .ok a ∧
    Scenario.Run a.scenario [⟨1800000000000000000⟩] scenario ∧
    scenario.checkout? "first" = some checkout ∧ scenario.order? "second" = some order ∧
    checkout.baseTotal = ⟨1000, .gbp⟩ ∧ checkout.discount.amount = ⟨200, .gbp⟩ ∧
    order.total = ⟨800, .gbp⟩ ∧ checkout.ComesTo scenario.vouchers order := by
  have hcomputed : (replay? (voucherShop "entire_order") [⟨1800000000000000000⟩]).map
      (fun (_, scenario) => ((scenario.checkout? "first").map fun checkout =>
          (checkout.voucherCode.isSome, checkout.baseTotal, checkout.discount.amount),
        (scenario.order? "second").map (·.total))) =
      some (some (true, ⟨1000, .gbp⟩, ⟨200, .gbp⟩), some ⟨800, .gbp⟩) := by
    decide +kernel
  obtain ⟨⟨a, scenario⟩, hreplay, hshown⟩ := Option.map_eq_some_iff.1 hcomputed
  obtain ⟨hload, hrun⟩ := replay?_eq_some.1 hreplay
  have hread : SalesManifest.ofDocument? quarterOffSales =
      some ⟨[("first", quarterOff)], [("second", ⟨quarterOff, none⟩)]⟩ := rfl
  have hreconcile := Scenario.run_singleton_iff.1 hrun
  obtain ⟨checkout, order, hcheckout, horder, hcomes⟩ :=
    comesTo_of_run hload rfl hread (List.nodup_singleton "first") (List.nodup_singleton "second")
      (List.mem_singleton.2 rfl) (List.mem_singleton.2 rfl) ⟨rfl, rfl, rfl, rfl⟩ rfl rfl
      (Scenario.Run.nil.snoc hreconcile)
  simp only [hcheckout, horder, Option.map_some, Prod.mk.injEq, Option.some.injEq] at hshown
  obtain ⟨⟨hcode, htotal, hamount⟩, hcharged⟩ := hshown
  exact ⟨a, scenario, checkout, order, hload, hrun, hcheckout, horder, htotal, hamount, hcharged,
    hcomes hcode⟩

/-- A quarter of the paperback is taken off the checkout only, where the voucher is for single
products. -/
theorem orderTotal_differs : ∃ a scenario checkout order,
    ofSet (voucherShop "specific_product") = .ok a ∧
    (Scenario.reconcile ⟨1800000000000000000⟩).runOn a.scenario = (.ok (), scenario) ∧
    scenario.checkout? "first" = some checkout ∧ scenario.order? "second" = some order ∧
    checkout.voucherCode.isSome ∧
    checkout.baseTotal.sub checkout.discount.amount = .ok ⟨800, .gbp⟩ ∧
    order.total = ⟨1000, .gbp⟩ := by
  have hcomputed : (replay? (voucherShop "specific_product") [⟨1800000000000000000⟩]).map
      (fun (_, scenario) => ((scenario.checkout? "first").map fun checkout =>
          (checkout.voucherCode.isSome, checkout.baseTotal.sub checkout.discount.amount),
        (scenario.order? "second").map (·.total))) =
      some (some (true, .ok ⟨800, .gbp⟩), some ⟨1000, .gbp⟩) := by
    decide +kernel
  obtain ⟨⟨a, scenario⟩, hreplay, hshown⟩ := Option.map_eq_some_iff.1 hcomputed
  obtain ⟨hload, hrun⟩ := replay?_eq_some.1 hreplay
  obtain ⟨hfirst, hsecond⟩ := Prod.mk.inj hshown
  obtain ⟨checkout, hcheckout, hshown⟩ := Option.map_eq_some_iff.1 hfirst
  obtain ⟨order, horder, htotal⟩ := Option.map_eq_some_iff.1 hsecond
  obtain ⟨hcode, hpaid⟩ := Prod.mk.inj hshown
  exact ⟨a, scenario, checkout, order, hload, Scenario.run_singleton_iff.1 hrun, hcheckout, horder,
    hcode, hpaid, htotal⟩

end Assembly

end Retail
