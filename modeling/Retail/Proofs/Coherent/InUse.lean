import Retail.Proofs.Coherent.Sales
import Retail.Proofs.Voucher.Sequence

/-!
# Scenarios in use

Between reconciliations the codes of a scenario are redeemed and released. That counts uses, opens
and closes codes and notes customers; vouchers stay, and each text stays with a code of the same
voucher. So a scenario stays coherent and held by its ledger, however long it is in use.

## Main definitions

* `Vouchers.SameOffers`: a book that differs in the use of its codes only
* `Scenario.InUse`: what becomes of a scenario
* `Scenario.Orderly`: what holds of it all the time

## Main results

* `Vouchers.sameOffers_redeem`, `Vouchers.sameOffers_release`: one request
* `Scenario.Orderly.reconcile`, `Scenario.Orderly.sameOffers`: one step
* `Scenario.InUse.orderly`, `Scenario.InUse.vouchers`: any number of steps
-/

namespace Retail

/-! ## The book -/

namespace Vouchers

variable {book book' third : Vouchers} {text : String} {key : CodeKey} {code : VoucherCode}

/-- The vouchers are the same, and so are the codes, but for how often they were used, whether they
are active and who has used them. -/
structure SameOffers (book book' : Vouchers) : Prop where
  vouchers : book'.vouchers = book.vouchers
  findCode? : ∀ text, book'.findCode? text = book.findCode? text
  codes : ∀ key code, book.codes.get? key = some code →
    ∃ code', book'.codes.get? key = some code' ∧ code'.voucher = code.voucher

namespace SameOffers

theorem refl (book : Vouchers) : book.SameOffers book :=
  ⟨rfl, fun _ => rfl, fun _ code hcode => ⟨code, hcode, rfl⟩⟩

theorem codeOf? (h : book.SameOffers book') (hcode : book.codeOf? text = some code) :
    ∃ code', book'.codeOf? text = some code' ∧ code'.voucher = code.voucher := by
  obtain ⟨key, hkey, hfound⟩ := Option.bind_eq_some_iff.1 hcode
  obtain ⟨code', hcode', hvoucher⟩ := h.codes key code hfound
  exact ⟨code', Option.bind_eq_some_iff.2 ⟨key, (h.findCode? text).trans hkey, hcode'⟩, hvoucher⟩

/-- A change of one code that keeps its voucher, and the index. -/
theorem of_modify {f : VoucherCode → VoucherCode} (hvouchers : book'.vouchers = book.vouchers)
    (hcodes : book'.codes = book.codes.modify key f) (hindex : book'.index = book.index)
    (hf : ∀ code, (f code).voucher = code.voucher) : book.SameOffers book' where
  vouchers := hvouchers
  findCode? text := congrArg (lookup · text) hindex
  codes := (Extends.of_modify hvouchers hcodes hf).codes

end SameOffers

/-- Redeeming a code changes its use only, whether it succeeds or not. -/
theorem sameOffers_redeem (voucher : VoucherKey) (key : CodeKey) (email : String) (track : Bool)
    (book : Vouchers) :
    book.SameOffers ((redeem voucher key email track).runOn book).2 := by
  rcases hrun : (redeem voucher key email track).runOn book with ⟨e | u, book'⟩
  · obtain rfl := eq_of_redeem_eq_error hrun
    exact .refl book'
  · obtain ⟨terms, -, -, rfl⟩ := redeem_eq_ok.1 hrun
    exact .of_modify (f := (·.redeemed terms)) rfl rfl rfl fun code => rfl

/-- Releasing a code changes its use only, whether it succeeds or not. -/
theorem sameOffers_release (code : Option CodeKey) (voucher : Option VoucherKey)
    (email : Option String) (book : Vouchers) :
    book.SameOffers ((release code voucher email).runOn book).2 := by
  rcases hrun : (release code voucher email).runOn book with ⟨e | u, book'⟩
  · obtain rfl := eq_of_release_eq_error hrun
    exact .refl book'
  · cases code with
    | none =>
      obtain ⟨-, rfl⟩ := Prod.mk.inj hrun
      exact .refl book
    | some key =>
      obtain ⟨terms, -, -, rfl⟩ := release_eq_ok.1 hrun
      refine .of_modify (f := fun code => terms.elim code code.released) rfl rfl rfl fun code => ?_
      cases terms <;> rfl

end Vouchers

/-! ## Checkouts and orders -/

section Targets

variable {channels : Registry .channel Channel} {book book' : Vouchers}

theorem Checkout.Coherent.sameOffers {checkout : Checkout} (h : checkout.Coherent channels book)
    (hsame : book.SameOffers book') : checkout.Coherent channels book' := by
  refine ⟨h.toCoherent, h.unnamed, fun text htext => ?_⟩
  obtain ⟨code, voucher, hcode, hvoucher, hentered⟩ := h.named text htext
  obtain ⟨code', hcode', hsameVoucher⟩ := hsame.codeOf? hcode
  refine ⟨code', voucher, hcode', hvoucher.trans ?_, ?_⟩
  · rw [hsameVoucher]
  · rw [hsame.vouchers, hsameVoucher]
    exact hentered

theorem Order.Coherent.sameOffers {order : Order} (h : order.Coherent channels book)
    (hsame : book.SameOffers book') : order.Coherent channels book' :=
  ⟨h.toCoherent, h.shipping, h.method, hsame.vouchers ▸ h.voucher⟩

end Targets

/-! ## Scenarios -/

namespace Scenario

variable {start scenario scenario' : Scenario} {now : Instant} {times : List Instant} {u : Unit}
  {book : Vouchers}

/-- What becomes of a scenario that is reconciled now and then, while codes are redeemed and
released in between. Requests may fail. -/
inductive InUse (start : Scenario) : Scenario → Prop where
  | opened : InUse start start
  | reconciled {scenario scenario' : Scenario} {now : Instant} (inUse : InUse start scenario)
      (success : (reconcile now).runOn scenario = (.ok (), scenario')) : InUse start scenario'
  | redeemed {scenario : Scenario} (inUse : InUse start scenario) (voucher : VoucherKey)
      (code : CodeKey) (email : String) (track : Bool) :
      InUse start { scenario with
        vouchers := ((Vouchers.redeem voucher code email track).runOn scenario.vouchers).2 }
  | released {scenario : Scenario} (inUse : InUse start scenario) (code : Option CodeKey)
      (voucher : Option VoucherKey) (email : Option String) :
      InUse start { scenario with
        vouchers := ((Vouchers.release code voucher email).runOn scenario.vouchers).2 }

/-- Reconciliations alone are a use as well. -/
theorem Run.inUse (h : Run start times scenario) : InUse start scenario := by
  induction h with
  | nil => exact .opened
  | snoc _ hreconcile ih => exact ih.reconciled hreconcile

/-- The ledger holds the baskets of the scenario, and these are regular and coherent. -/
structure Orderly (scenario : Scenario) : Prop where
  held : scenario.Held
  regular : ∀ basket ∈ scenario.baskets, basket.Regular
  coherent : scenario.Coherent

theorem Orderly.reconcile (h : scenario.Orderly)
    (hreconcile : (Scenario.reconcile now).runOn scenario = (.ok u, scenario')) :
    scenario'.Orderly where
  held := h.held.reconcile hreconcile
  regular := h.held.regular h.regular hreconcile
  coherent := h.coherent.reconcile h.held h.regular hreconcile

/-- What clients do with codes touches no basket. -/
theorem Orderly.sameOffers (h : scenario.Orderly) (hsame : scenario.vouchers.SameOffers book) :
    ({ scenario with vouchers := book } : Scenario).Orderly where
  held := h.held
  regular := h.regular
  coherent := ⟨fun checkout hcheckout => (h.coherent.checkouts checkout hcheckout).sameOffers hsame,
    fun order horder => (h.coherent.orders order horder).sameOffers hsame⟩

theorem InUse.orderly (h : InUse start scenario) (hstart : start.Orderly) : scenario.Orderly := by
  induction h with
  | opened => exact hstart
  | reconciled _ hreconcile ih => exact ih.reconcile hreconcile
  | redeemed _ voucher code email track ih =>
    exact ih.sameOffers (Vouchers.sameOffers_redeem voucher code email track _)
  | released _ code voucher email ih =>
    exact ih.sameOffers (Vouchers.sameOffers_release code voucher email _)

/-- Vouchers are neither entered nor changed. -/
theorem InUse.vouchers (h : InUse start scenario) :
    scenario.vouchers.vouchers = start.vouchers.vouchers := by
  induction h with
  | opened => rfl
  | reconciled _ hreconcile ih => rw [eq_of_reconcile_eq_ok hreconcile, ih]
  | redeemed _ voucher code email track ih =>
    exact (Vouchers.sameOffers_redeem voucher code email track _).vouchers.trans ih
  | released _ code voucher email ih =>
    exact (Vouchers.sameOffers_release code voucher email _).vouchers.trans ih

end Scenario

theorem Assembly.Loaded.orderly {a : Assembly} (h : a.Loaded) : a.scenario.Orderly :=
  ⟨h.held, h.regular, h.sound.2⟩

end Retail
