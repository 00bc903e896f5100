import Retail.Proofs.Again.Sales
import Retail.Proofs.Coherent.InUse
import Retail.Proofs.Coherent.Minimum
import Retail.Proofs.Voucher.Customers

/-!
# Vouchers that checkouts keep

Reconciling a checkout gives its lines their catalogue prices and then looks at its voucher again.
Either the voucher stays with its code or both go, and they stay exactly as long as the checkout
qualifies for it. The minimum to be spent is compared with the subtotal at the new prices, which is
the base subtotal that the checkout ends with.

The conditions are read from two places, the code and the voucher of the checkout. In a scenario
that was assembled the voucher is the one of the code, whatever use its codes have seen since.

## Main definitions

* `Checkout.Eligible`: a checkout that may redeem a voucher through a code
* `Checkout.Qualifies`: a checkout that may redeem some voucher through a code with a text
* `Checkout.Decided`: a checkout that kept its voucher if it qualified for it, and lost it otherwise
* `Vouchers.Minimums`: minimums of 64 bits

## Main results

* `Vouchers.validate_eq_ok`: the conditions on a purchase
* `Checkout.voucherApplies_iff_qualifies`: both checks together
* `Checkout.decided_reconcile`: one checkout
* `Assembly.Loaded.decided_of_inUse`: all checkouts of an assembled scenario
-/

namespace Retail

/-! ## Conditions of vouchers -/

namespace Voucher

variable {voucher : Voucher} {listing : VoucherListing} {channel : ChannelKey} {total : Money}
  {quantity : Nat} {u : Unit}

theorem checkMinSpent_eq_ok (hlisting : voucher.listing? channel = some listing) :
    voucher.checkMinSpent total channel = .ok u ↔ ∀ minimum ∈ listing.minSpent,
      minimum.currency = total.currency → minimum.minorUnits ≤ total.minorUnits := by
  simp only [checkMinSpent, hlisting]
  cases listing.minSpent with
  | none => simp
  | some minimum =>
    simp only [Option.mem_def, Option.some.injEq, forall_eq']
    by_cases hbelow : minimum.currency = total.currency ∧ total.minorUnits < minimum.minorUnits
    · rw [if_pos hbelow]
      simp only [reduceCtorEq, false_iff, not_forall, not_le]
      exact ⟨hbelow.1, hbelow.2⟩
    · rw [if_neg hbelow]
      simpa using hbelow

theorem checkMinItems_eq_ok :
    voucher.checkMinItems quantity = .ok u ↔ ∀ minimum ∈ voucher.minItems, minimum ≤ quantity := by
  unfold checkMinItems
  cases voucher.minItems with
  | none => simp
  | some minimum => simp

end Voucher

namespace Vouchers

variable {book : Vouchers} {key : VoucherKey} {voucher : Voucher} {listing : VoucherListing}
  {channel : ChannelKey} {total : Money} {quantity : Nat} {email : Option String}
  {customer : Option Customer} {u : Unit}

/-- A voucher applies to a purchase that reaches both minimums, unless the customer has used it
before or is not of the staff, where that matters. -/
theorem validate_eq_ok (hentered : book.vouchers.get? key = some voucher)
    (hlisting : voucher.listing? channel = some listing) :
    book.validate key total quantity email channel customer = .ok u ↔
      (∀ minimum ∈ listing.minSpent,
        minimum.currency = total.currency → minimum.minorUnits ≤ total.minorUnits) ∧
      (∀ minimum ∈ voucher.minItems, minimum ≤ quantity) ∧
      (voucher.oncePerCustomer → ∀ address ∈ email, ¬book.customerHasUsed key address) ∧
      (voucher.onlyForStaff → ∃ buyer ∈ customer, buyer.isStaff) := by
  have hguard : ∀ {refused : Bool} {e : VoucherError} {next : Except VoucherError Unit},
      (if refused then (.error e >>= fun _ : Unit => next) else next) = .ok u ↔
        refused = false ∧ next = .ok u := by
    intro refused e next
    cases refused
    · simp
    · simp only [if_true, Bool.true_eq_false, false_and, iff_false]
      exact nofun
  have hlast : ∀ {refused : Bool} {e : VoucherError},
      (if refused then .error e else pure () : Except VoucherError Unit) = .ok u ↔
        refused = false := by
    intro refused e
    cases refused <;> simp [pure, Except.pure]
  have hused : (voucher.oncePerCustomer && email.any (book.customerHasUsed key)) = false ↔
      (voucher.oncePerCustomer → ∀ address ∈ email, ¬book.customerHasUsed key address) := by
    cases voucher.oncePerCustomer <;> cases email <;> simp
  have hstaff : (voucher.onlyForStaff && !customer.any (·.isStaff)) = false ↔
      (voucher.onlyForStaff → ∃ buyer ∈ customer, buyer.isStaff) := by
    cases voucher.onlyForStaff <;> cases customer <;> simp
  simp only [validate, hentered, bind_eq_ok, mapError_eq_ok, Voucher.checkMinSpent_eq_ok hlisting,
    Voucher.checkMinItems_eq_ok, exists_and_left, exists_const]
  exact and_congr_right fun _ => and_congr_right fun _ =>
    hguard.trans (and_congr hused (hlast.trans hstaff))

/-- Every minimum to be spent has 64 bits. -/
def Minimums (book : Vouchers) : Prop :=
  ∀ voucher ∈ book.vouchers.values, ∀ listing ∈ voucher.listings, ∀ minimum ∈ listing.2.minSpent,
    fitsMinor minimum.minor

theorem Minimums.fits {minimum : Money} (h : book.Minimums)
    (hentered : book.vouchers.get? key = some voucher)
    (hlisting : voucher.listing? channel = some listing) (hminimum : minimum ∈ listing.minSpent) :
    fitsMinor minimum.minor :=
  h voucher (List.mem_map_of_mem (Registry.get?_eq_some.1 hentered)) _
    (exists_mem_of_lookup hlisting) minimum hminimum

end Vouchers

/-! ## The subtotal -/

namespace Line

variable {line line' : Line} {book : Promotions} {channel : ChannelKey} {now : Instant}
  {currency : Currency} {total : Money} {u : Unit}

/-- A line that is given its catalogue price costs nothing or more. -/
theorem baseUnitPrice_of_setCataloguePrice
    (h : (setCataloguePrice book channel now).runOn line = (.ok u, line')) :
    0 ≤ line'.baseUnitPrice.minorUnits := by
  obtain ⟨price, _, _, -, -, -, rfl⟩ := setCataloguePrice_eq_ok.1 h
  exact price.minorUnits_floorAtZero_nonneg

/-- Without a record of a voucher, the total of a line is its base total. -/
theorem Tidy.baseTotalAfterVouchers (h : line.Tidy) (hprice : 0 ≤ line.baseUnitPrice.minorUnits)
    (htotal : line.baseTotal = .ok total) (hcurrency : total.currency = currency) :
    line.baseTotalAfterVouchers currency = .ok total := by
  have hnonneg : 0 ≤ total.minor := by
    rw [(Money.times_eq_ok.1 htotal).2]
    exact Int.mul_nonneg hprice (Int.natCast_nonneg _)
  simp only [Line.baseTotalAfterVouchers, bind_eq_ok, h.voucherRecords, pure_eq_ok]
  refine ⟨total, htotal, .zero currency, rfl, total, ?_, Money.floorAtZero_of_nonneg hnonneg⟩
  rw [Money.sub_eq_ok, Money.minor_zero, sub_zero]
  exact ⟨hcurrency, rfl⟩

end Line

/-- Without records of vouchers, the subtotal of lines is their base subtotal. -/
theorem baseSubtotalAfterVouchers_of_tidy {lines : List Line} {currency : Currency}
    {subtotal : Money} (htidy : ∀ line ∈ lines, line.Tidy)
    (hprices : ∀ line ∈ lines, 0 ≤ line.baseUnitPrice.minorUnits)
    (h : baseSubtotal lines currency = .ok subtotal) :
    baseSubtotalAfterVouchers lines currency = .ok subtotal := by
  obtain ⟨totals, htotals, hsum⟩ := bind_eq_ok.1 h
  refine bind_eq_ok.2 ⟨totals, mapM_eq_ok.2 ?_, hsum⟩
  refine forall₂_imp_of_mem (mapM_eq_ok.1 htotals) fun line hline total htotal hbase => ?_
  exact (htidy line hline).baseTotalAfterVouchers (hprices line hline) hbase
    ((Money.total_eq_ok.1 hsum).1 total htotal)

/-! ## Checkouts -/

namespace Checkout

variable {checkout checkout' kept : Checkout} {ledger ledger' : Ledger}
  {rest : List DiscountRecord} {channels : Registry .channel Channel} {channel : Channel}
  {promotions : Promotions} {vouchers : Vouchers} {now : Instant} {report : SyncReport}
  {text : String} {subtotal : Money} {u : Unit}

/-- The number of items. -/
def items (checkout : Checkout) : Nat := (checkout.lines.map (·.quantity)).sum

/-- As long as there are not too many of them for 32 bits, all items are counted. -/
theorem quantity_eq_items (h : checkout.items < 4294967296) :
    checkout.quantity = checkout.items := by
  rw [← Nat.mod_eq_of_lt h, items, List.sum, List.foldr_map]
  rfl

/-- The checkout may redeem the voucher through the code: the code is active, the voucher too, the
purchase reaches the minimums, and the customer is of the kind that the voucher is for. A minimum in
another currency is none. -/
structure Eligible (book : Vouchers) (now : Instant) (subtotal : Money) (checkout : Checkout)
    (code : VoucherCode) (voucher : Voucher) (listing : VoucherListing) : Prop where
  isActive : code.isActive
  within : now.within voucher.start voucher.finish
  minSpent : ∀ minimum ∈ listing.minSpent, minimum.currency = subtotal.currency →
    minimum.minor ≤ subtotal.minor
  minItems : ∀ minimum ∈ voucher.minItems, minimum ≤ checkout.items
  unused : voucher.oncePerCustomer → ∀ email ∈ checkout.customerEmail,
    ¬∃ key other, (key, email) ∈ book.customers ∧ book.codes.get? key = some other ∧
      other.voucher = code.voucher
  staff : voucher.onlyForStaff → ∃ customer ∈ checkout.customer, customer.isStaff

/-- The text is that of a code through which the checkout may redeem a voucher that is listed in its
channel. -/
def Qualifies (book : Vouchers) (now : Instant) (subtotal : Money) (text : String)
    (checkout : Checkout) : Prop :=
  ∃ code voucher listing, book.codeOf? text = some code ∧
    book.vouchers.get? code.voucher = some voucher ∧
    voucher.listing? checkout.channel = some listing ∧
    checkout.Eligible book now subtotal code voucher listing

/-- Lines at other prices are as many items. -/
theorem items_withLines {lines : List Line}
    (hsame : List.Forall₂ Line.SameGoods checkout.lines lines) :
    ({ checkout with lines } : Checkout).items = checkout.items :=
  congrArg List.sum (map_eq_of_forall₂ hsame fun _ _ hgoods => hgoods.quantity.symm).symm

theorem qualifies_withLines {lines : List Line}
    (hsame : List.Forall₂ Line.SameGoods checkout.lines lines) :
    ({ checkout with lines } : Checkout).Qualifies vouchers now subtotal text ↔
      checkout.Qualifies vouchers now subtotal text := by
  have hitems := items_withLines hsame
  refine exists_congr fun code => exists_congr fun voucher => exists_congr fun listing =>
    and_congr_right fun _ => and_congr_right fun _ => and_congr_right fun _ => ?_
  constructor
  · rintro ⟨hactive, hwithin, hspent, hcount, hunused, hstaff⟩
    exact ⟨hactive, hwithin, hspent, hitems ▸ hcount, hunused, hstaff⟩
  · rintro ⟨hactive, hwithin, hspent, hcount, hunused, hstaff⟩
    exact ⟨hactive, hwithin, hspent, hitems.symm ▸ hcount, hunused, hstaff⟩

/-- A voucher that is the one of its code applies exactly if the checkout qualifies for it. -/
theorem voucherApplies_iff_qualifies
    (hnamed : ∃ code voucher, vouchers.codeOf? text = some code ∧
      checkout.voucher = some code.voucher ∧ vouchers.vouchers.get? code.voucher = some voucher)
    (hminimums : vouchers.Minimums) (htext : checkout.voucherCode = some text)
    (hitems : checkout.items < 4294967296) (hfits : fitsMinor subtotal.minor)
    (hsubtotal : baseSubtotalAfterVouchers checkout.lines checkout.currency = .ok subtotal) :
    checkout.VoucherApplies vouchers now ↔ checkout.Qualifies vouchers now subtotal text := by
  obtain ⟨code, voucher, hcode, hnamed, hentered⟩ := hnamed
  have hvalidate : checkout.validateVoucher vouchers = vouchers.validate code.voucher subtotal
      checkout.items checkout.customerEmail checkout.channel checkout.customer := by
    rw [validateVoucher, hnamed, ← quantity_eq_items hitems]
    dsimp only
    rw [hsubtotal]
    rfl
  have hspent : ∀ listing, voucher.listing? checkout.channel = some listing →
      ∀ minimum ∈ listing.minSpent, minimum.minorUnits ≤ subtotal.minorUnits ↔
        minimum.minor ≤ subtotal.minor := by
    intro listing hlisting minimum hminimum
    rw [Money.minorUnits_of_fits hfits,
      Money.minorUnits_of_fits (hminimums.fits hentered hlisting hminimum)]
  have happlies : checkout.VoucherApplies vouchers now ↔
      (∃ key, vouchers.usableCode text checkout.channel now = .ok key) ∧
        checkout.validateVoucher vouchers = .ok () := by
    simp only [VoucherApplies, htext, Option.mem_def, Option.some.injEq, forall_eq']
  rw [happlies, hvalidate, Vouchers.exists_usableCode_iff]
  constructor
  · rintro ⟨⟨found, terms, hfound, hactive, hterms, hredeemable⟩, hvalid⟩
    obtain rfl : code = found := Option.some.inj (hcode.symm.trans hfound)
    obtain rfl : voucher = terms := Option.some.inj (hentered.symm.trans hterms)
    obtain ⟨hwithin, hlisted⟩ := Voucher.isActiveIn_iff.1 hredeemable
    obtain ⟨listing, hlisting⟩ := Option.isSome_iff_exists.1 hlisted
    obtain ⟨hminSpent, hminItems, hunused, hstaff⟩ :=
      (Vouchers.validate_eq_ok hentered hlisting).1 hvalid
    refine ⟨code, voucher, listing, hcode, hentered, hlisting, hactive, hwithin, ?_, hminItems, ?_,
      hstaff⟩
    · intro minimum hminimum hcurrency
      exact (hspent listing hlisting minimum hminimum).1 (hminSpent minimum hminimum hcurrency)
    · intro honce email hemail
      rw [← Vouchers.customerHasUsed_iff]
      exact hunused honce email hemail
  · rintro ⟨found, terms, listing, hfound, hterms, hlisting, heligible⟩
    obtain rfl : code = found := Option.some.inj (hcode.symm.trans hfound)
    obtain rfl : voucher = terms := Option.some.inj (hentered.symm.trans hterms)
    have hlisted : (voucher.listing? checkout.channel).isSome :=
      Option.isSome_iff_exists.2 ⟨listing, hlisting⟩
    refine ⟨⟨code, voucher, hcode, heligible.isActive, hentered,
      Voucher.isActiveIn_iff.2 ⟨heligible.within, hlisted⟩⟩, ?_⟩
    refine (Vouchers.validate_eq_ok hentered hlisting).2 ⟨?_, heligible.minItems, ?_,
      heligible.staff⟩
    · intro minimum hminimum hcurrency
      exact (hspent listing hlisting minimum hminimum).2
        (heligible.minSpent minimum hminimum hcurrency)
    · intro honce email hemail
      rw [Vouchers.customerHasUsed_iff]
      exact heligible.unused honce email hemail

/-- The checkout qualifies for the voucher of the code with the text, at the subtotal of its lines at
catalogue prices, exactly if it kept the voucher and its code. Otherwise it lost both. -/
structure Decided (promotions : Promotions) (book : Vouchers) (now : Instant) (text : String)
    (checkout checkout' : Checkout) : Prop where
  subtotal : ∃ lines,
    (cataloguePrices promotions checkout.channel now).runOn checkout.lines = (.ok (), lines) ∧
    baseSubtotal lines checkout.currency = .ok checkout'.baseSubtotal
  kept_or_lost :
    (checkout'.voucher = checkout.voucher ∧ checkout'.voucherCode = checkout.voucherCode) ∨
      (checkout'.voucher = none ∧ checkout'.voucherCode = none)
  kept_iff :
    (checkout'.voucher = checkout.voucher ∧ checkout'.voucherCode = checkout.voucherCode) ↔
      checkout.Qualifies book now checkout'.baseSubtotal text

/-- A checkout that ends with its code qualified for the voucher. -/
theorem Decided.qualifies (h : checkout.Decided promotions vouchers now text checkout')
    (hkept : checkout'.voucherCode = some text) :
    checkout.Qualifies vouchers now checkout'.baseSubtotal text := by
  apply h.kept_iff.1
  rcases h.kept_or_lost with hboth | ⟨-, hlost⟩
  · exact hboth
  · rw [hkept] at hlost
    contradiction

/-- A checkout that ends without its code did not qualify for the voucher. -/
theorem Decided.not_qualifies (h : checkout.Decided promotions vouchers now text checkout')
    (htext : checkout.voucherCode = some text) (hlost : checkout'.voucherCode = none) :
    ¬checkout.Qualifies vouchers now checkout'.baseSubtotal text := by
  intro hqualifies
  obtain ⟨-, hkept⟩ := h.kept_iff.2 hqualifies
  rw [hlost, htext] at hkept
  contradiction

/-- A checkout that is reconciled ends with the base subtotal at which its voucher was checked. -/
theorem exists_subtotal_of_reconcile (hheld : checkout.toBasket.HeldIn ledger rest)
    (hregular : checkout.toBasket.Regular)
    (h : (reconcile channel promotions vouchers now).runOn (checkout, ledger) =
      (.ok report, (checkout', ledger'))) :
    ∃ lines kept,
      (cataloguePrices promotions checkout.channel now).runOn checkout.lines = (.ok (), lines) ∧
      baseSubtotal lines checkout.currency = .ok checkout'.baseSubtotal ∧
      baseSubtotalAfterVouchers lines checkout.currency = .ok checkout'.baseSubtotal ∧
      (dropInvalidVoucher vouchers now).runOn ({ checkout with lines }, ledger) =
        (.ok (), (kept, ledger)) ∧
      checkout'.voucher = kept.voucher ∧ checkout'.voucherCode = kept.voucherCode := by
  obtain ⟨lines, kept, settled, hlines, hdrop, hsettled, -, -, hshow⟩ :=
    exists_settled hheld hregular h
  obtain ⟨hkept, -⟩ := eq_of_dropInvalidVoucher_eq_ok hdrop
  obtain ⟨hshown, -⟩ := eq_of_showVoucher_eq_ok hshow
  have hsubtotal : baseSubtotal lines checkout.currency = .ok checkout'.baseSubtotal := by
    have hcurrency : settled.currency = checkout.currency := by rw [hsettled.eq, hkept]
    have hsynced := hsettled.lines
    rw [hkept] at hsynced
    -- The records of promotions that came and went do not enter the base prices.
    rw [hshown, ← hcurrency, ← baseSubtotal_congr (hsynced.imp fun _ _ h => h.same.baseTotal)]
    exact hsettled.basePrices.1
  refine ⟨lines, kept, hlines, hsubtotal, ?_, hdrop, ?_⟩
  · have htidy := Basket.forall_tidy (sameRecords_cataloguePrices hlines) hregular.lines
    refine baseSubtotalAfterVouchers_of_tidy htidy (fun line hline => ?_) hsubtotal
    obtain ⟨_, -, hpriced⟩ := exists_left_of_forall₂ (cataloguePrices_eq_ok.1 hlines) hline
    exact Line.baseUnitPrice_of_setCataloguePrice hpriced
  · rw [hshown, hsettled.eq]
    exact ⟨rfl, rfl⟩

/-- Reconciling decides about the voucher of a checkout. -/
theorem decided_reconcile (hheld : checkout.toBasket.HeldIn ledger rest)
    (hregular : checkout.toBasket.Regular) (hcoherent : checkout.Coherent channels vouchers)
    (hminimums : vouchers.Minimums) (htext : checkout.voucherCode = some text)
    (hitems : checkout.items < 4294967296) (hfits : fitsMinor checkout'.baseSubtotal.minor)
    (h : (reconcile channel promotions vouchers now).runOn (checkout, ledger) =
      (.ok report, (checkout', ledger'))) :
    checkout.Decided promotions vouchers now text checkout' := by
  obtain ⟨lines, kept, hlines, hsubtotal, hafter, hdrop, hvoucher, hcode⟩ :=
    exists_subtotal_of_reconcile hheld hregular h
  have hgoods := sameGoods_cataloguePrices hlines
  have happlies : ({ checkout with lines } : Checkout).VoucherApplies vouchers now ↔
      checkout.Qualifies vouchers now checkout'.baseSubtotal text := by
    refine Iff.trans ?_ (qualifies_withLines hgoods)
    exact voucherApplies_iff_qualifies (hcoherent.named text htext) hminimums htext
      ((items_withLines hgoods).trans_lt hitems) hfits hafter
  suffices hdecided : _ ∧ _ from ⟨⟨lines, hlines, hsubtotal⟩, hdecided.1, hdecided.2⟩
  obtain ⟨rfl | rfl, -⟩ := eq_or_eq_of_dropInvalidVoucher_eq_ok hdrop
  · have hqualifies := happlies.1 (voucherApplies_of_dropInvalidVoucher hdrop)
    exact ⟨.inl ⟨hvoucher, hcode⟩, iff_of_true ⟨hvoucher, hcode⟩ hqualifies⟩
  · refine ⟨.inr ⟨hvoucher, hcode⟩, iff_of_false ?_ ?_⟩
    · rintro ⟨-, hkept⟩
      rw [hcode, htext] at hkept
      contradiction
    · intro hqualifies
      rw [runOn_dropInvalidVoucher (happlies.2 hqualifies)] at hdrop
      have hsame := congrArg (·.2.1.voucherCode) hdrop
      exact absurd (htext.symm.trans hsame) nofun

end Checkout

/-! ## Assembled scenarios -/

namespace Assembly

variable {a a' : Assembly} {scenario scenario' : Scenario} {now : Instant}

theorem minimums_addVoucher {entry : String × VoucherEntry} (h : a.addVoucher entry = .ok a')
    (hprior : a.scenario.vouchers.Minimums) : a'.scenario.vouchers.Minimums := by
  obtain ⟨-, voucher, hentered, hoffers⟩ := exists_of_addVoucher h
  rw [Vouchers.Minimums, hentered, List.forall_mem_append, List.forall_mem_singleton]
  refine ⟨hprior, fun listing hlisting minimum hminimum => ?_⟩
  obtain ⟨written, -, hwritten⟩ := exists_left_of_forall₂ hoffers hlisting
  obtain ⟨text, -, hread⟩ := exists_of_optionMapM_eq_ok hwritten.minSpent hminimum
  exact fitsMinor_of_readPrice hread

theorem Loaded.minimums (h : a.Loaded) : a.scenario.vouchers.Minimums := by
  induction h with
  | empty => exact List.forall_mem_nil _
  | @load _ _ kind _ _ hload ih =>
    by_cases hkind : kind = .vouchers
    · subst hkind
      obtain ⟨_, _, -, hmanifest, hadd⟩ := exists_of_load hload
      obtain ⟨entries, -, rfl⟩ := Option.map_eq_some_iff.1 hmanifest
      exact foldlM_eq_ok_induction (P := fun a : Assembly => a.scenario.vouchers.Minimums)
        (fun _ _ _ _ => minimums_addVoucher) hadd ih
    · rw [vouchers_load hkind hload]
      exact ih

/-- Whenever a scenario in use is reconciled, each checkout with a voucher code keeps its voucher
exactly if it qualifies for it, and otherwise loses voucher and code. -/
theorem Loaded.decided_of_inUse (h : a.Loaded) (huse : Scenario.InUse a.scenario scenario)
    (hreconcile : (Scenario.reconcile now).runOn scenario = (.ok (), scenario')) :
    List.Forall₂ (fun before after => after.1 = before.1 ∧
      ∀ text, before.2.voucherCode = some text → before.2.items < 4294967296 →
        fitsMinor after.2.baseSubtotal.minor →
        before.2.Decided scenario.promotions scenario.vouchers now text after.2)
      scenario.checkouts scenario'.checkouts := by
  have horderly := huse.orderly h.orderly
  have hminimums : scenario.vouchers.Minimums := by
    rw [Vouchers.Minimums, huse.vouchers]
    exact h.minimums
  obtain ⟨-, hcheckouts, -⟩ := horderly.held.turns hreconcile
  refine forall₂_imp_of_mem hcheckouts fun before hbefore after _ ⟨hname, hturns⟩ => ⟨hname, ?_⟩
  intro text htext hitems hfits
  obtain ⟨_, _, _, _, _, -, hheld, hturn⟩ := hturns
  exact Checkout.decided_reconcile hheld
    (horderly.regular _ (Scenario.mem_baskets_of_mem_checkouts hbefore))
    (horderly.coherent.checkouts before hbefore) hminimums htext hitems hfits hturn

/-- The bookshop with a voucher for one use per customer and purchases of two items for ten pounds,
which a customer redeems in the checkout. -/
def clubShop : ManifestKind → Except LoadError Document
  | .vouchers => .ok <| .map [("vouchers", .map [("club", .map [
      ("type", .text "entire_order"),
      ("discount_value_type", .text "percentage"),
      ("start", .text "2024-01-01T00:00:00Z"),
      ("apply_once_per_customer", .boolean true),
      ("min_checkout_items_quantity", .number "2"),
      ("channels", .map [("uk", .map [
        ("discount_value", .text "25"), ("min_spent", .text "10.00 GBP")])]),
      ("codes", .list [.text "CLUB"])])])]
  | .orders => .ok <| .map [("checkouts", .map [("first", .map [
      ("channel", .text "uk"),
      ("email", .text "a@x"),
      ("voucher_code", .text "CLUB"),
      ("lines", .list [.map [("variant", .text "paperback"), ("quantity", .number "2")]])])])]
  | kind => bookshop kind

/-- The scenario after the customer has redeemed the code. -/
def redeemedClub (scenario : Scenario) : Scenario :=
  { scenario with
    vouchers := ((Vouchers.redeem ⟨1⟩ ⟨1⟩ "a@x" true).runOn scenario.vouchers).2 }

/-- At the catalogue prices the two books cost twelve pounds, and the voucher is kept until the
customer has used it. -/
theorem decided_clubShop : ∃ a kept lost, ofSet clubShop = .ok a ∧
    (Scenario.reconcile ⟨1800000000000000000⟩).runOn a.scenario = (.ok (), kept) ∧
    (Scenario.reconcile ⟨1800000000000000000⟩).runOn (redeemedClub kept) = (.ok (), lost) ∧
    (∀ checkout ∈ a.scenario.checkouts, checkout.2.Qualifies a.scenario.vouchers
      ⟨1800000000000000000⟩ ⟨1200, .gbp⟩ "CLUB") ∧
    ∀ checkout ∈ (redeemedClub kept).checkouts, ¬checkout.2.Qualifies (redeemedClub kept).vouchers
      ⟨1800000000000000000⟩ ⟨1200, .gbp⟩ "CLUB" := by
  have hcomputed : (replay? clubShop [⟨1800000000000000000⟩]).any (fun (a, kept) =>
      let last := (Scenario.reconcile ⟨1800000000000000000⟩).runOn (redeemedClub kept)
      a.scenario.checkouts.map (fun checkout => (checkout.2.voucherCode, checkout.2.items)) =
          [(some "CLUB", 2)] ∧
        kept.checkouts.map (fun checkout =>
          (checkout.2.voucherCode, checkout.2.items, checkout.2.baseSubtotal)) =
          [(some "CLUB", 2, ⟨1200, .gbp⟩)] ∧
        last.1 = .ok () ∧
        last.2.checkouts.map (fun checkout =>
          (checkout.2.voucherCode, checkout.2.baseSubtotal)) = [(none, ⟨1200, .gbp⟩)]) := by
    decide +kernel
  obtain ⟨⟨a, kept⟩, hreplay, hshown⟩ := (Option.any_eq_true _ _).1 hcomputed
  obtain ⟨hload, hrun⟩ := replay?_eq_some.1 hreplay
  have hfirst := Scenario.run_singleton_iff.1 hrun
  obtain ⟨hopened, hkept, hsuccess, hlost⟩ := of_decide_eq_true hshown
  generalize hlast : (Scenario.reconcile ⟨1800000000000000000⟩).runOn (redeemedClub kept) = last
    at hsuccess hlost
  obtain ⟨_, lost⟩ := last
  obtain rfl : _ = Except.ok () := hsuccess
  obtain ⟨opened, hopened, hopenedCode⟩ := List.map_eq_singleton_iff.1 hopened
  obtain ⟨middle, hmiddle, hmiddleCode⟩ := List.map_eq_singleton_iff.1 hkept
  obtain ⟨final, hfinal, hfinalCode⟩ := List.map_eq_singleton_iff.1 hlost
  simp only [Prod.mk.injEq] at hopenedCode hmiddleCode hfinalCode
  obtain ⟨hmiddleText, hmiddleItems, hmiddleSubtotal⟩ := hmiddleCode
  have hloaded := loaded_ofSet hload
  have huse : Scenario.InUse a.scenario (redeemedClub kept) :=
    (Scenario.InUse.opened.reconciled hfirst).redeemed ⟨1⟩ ⟨1⟩ "a@x" true
  have hredeemed : (redeemedClub kept).checkouts = [middle] := hmiddle
  refine ⟨a, kept, lost, hload, hfirst, hlast, ?_, ?_⟩
  · have hdecided := hloaded.decided_of_inUse .opened hfirst
    rw [hopened, hmiddle, List.forall₂_cons] at hdecided
    rw [hopened, List.forall_mem_singleton, ← hmiddleSubtotal]
    refine (hdecided.1.2 "CLUB" hopenedCode.1 (by omega) ?_).qualifies hmiddleText
    rw [hmiddleSubtotal]
    decide
  · have hdecided := hloaded.decided_of_inUse huse hlast
    rw [hredeemed, hfinal, List.forall₂_cons] at hdecided
    rw [hredeemed, List.forall_mem_singleton, ← hfinalCode.2]
    refine (hdecided.1.2 "CLUB" hmiddleText (by omega) ?_).not_qualifies hmiddleText hfinalCode.1
    rw [hfinalCode.2]
    decide

end Assembly

end Retail
