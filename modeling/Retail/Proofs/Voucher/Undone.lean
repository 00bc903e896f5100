import Retail.Proofs.Voucher.Sequence

/-!
# Requests that leave nothing behind

A request that is refused leaves the book as it was, although it may have changed it on the way: a
use that is counted for a customer who is then refused is taken back. So requests lead to the same
book without those that are refused. A code that is redeemed and then released leaves the book as it
was too, whatever its voucher asks for, unless the code was closed before; then it is opened.

## Main results

* `Vouchers.unchanged_of_refused`: a request that is refused
* `Vouchers.Served.succeeded`: requests without those that are refused
* `Vouchers.release_redeemed`, `Vouchers.restored_of_release`: a release after a redemption
-/

namespace Retail

namespace VoucherCode

variable {terms : Voucher} {code : VoucherCode}

theorem uncounted_switched {active : Bool} :
    (code.switched terms active).uncounted terms = (code.uncounted terms).switched terms active :=
  rfl

theorem switched_switched {active active' : Bool} :
    (code.switched terms active).switched terms active' = code.switched terms active' := by
  cases hsingle : terms.singleUse <;> simp [switched, hsingle]

theorem switched_of_isActive (h : code.isActive) : code.switched terms true = code := by
  have hactive : (if terms.singleUse then true else code.isActive) = code.isActive := by
    rw [h, ite_self]
  rw [switched, hactive]

/-- What is left of a use that was taken back is that the code is open. -/
theorem released_redeemed : (code.redeemed terms).released terms = code.switched terms true := by
  rw [released, redeemed, uncounted_switched, uncounted_counted, switched_switched]

end VoucherCode

namespace Vouchers

variable {Client : Type} {book book' : Vouchers} {key : CodeKey} {code : VoucherCode}
  {voucher : VoucherKey} {terms : Voucher} {email : String} {track : Bool}
  {events : List (Event Client)} {u : Unit}

/-! ## Refused requests -/

/-- A customer who has used the code is refused, and a use is taken back. -/
theorem runOn_noteCustomer_of_mem (honce : (terms.oncePerCustomer && track) = true)
    (hthere : (book.codes.get? key).isSome) (hknown : (key, email) ∈ book.customers) :
    (noteCustomer terms key email track).runOn book =
      (.error (.notApplicable .oncePerCustomer), book.withCode key (·.uncounted terms)) := by
  have hadded : (change (·.addCustomer key email)).runOn book = (.ok false, book) := by
    refine change_eq_ok.2 (addCustomer_eq_ok.2 ⟨hthere, ?_⟩)
    rw [if_pos hknown]
    exact ⟨rfl, rfl⟩
  have hundone : (uncountUse terms key).runOn book =
      (.ok (), book.withCode key (·.uncounted terms)) :=
    uncountUse_eq_ok.2 ⟨fun _ => hthere, rfl⟩
  rw [noteCustomer, if_pos honce]
  refine Step.runOn_bind_eq_error.2 (.inr ⟨false, book, hadded, ?_⟩)
  exact Step.runOn_bind_eq_error.2 (.inr ⟨(), _, hundone, rfl⟩)

/-- A request that is refused leaves all counters, codes and customers as they were. Where a
customer may not use a code again, the use is counted first, and refusing the customer takes it
back. -/
theorem unchanged_of_refused (book : Vouchers) :
    (∀ voucher key email track e book',
      (redeem voucher key email track).runOn book = (.error e, book') → book' = book) ∧
    (∀ code voucher email e book',
      (release code voucher email).runOn book = (.error e, book') → book' = book) ∧
    ∀ voucher terms key code email, book.vouchers.get? voucher = some terms →
      book.codes.get? key = some code → terms.oncePerCustomer → (key, email) ∈ book.customers →
      (∀ limit, terms.limit? = some limit → code.used < min limit maxUsage) →
      (countUse terms key).runOn book = (.ok (), book.withCode key (·.counted terms)) ∧
      (noteCustomer terms key email true).runOn (book.withCode key (·.counted terms)) =
        (.error (.notApplicable .oncePerCustomer), book) ∧
      (redeem voucher key email true).runOn book =
        (.error (.notApplicable .oncePerCustomer), book) := by
  refine ⟨fun voucher key email track e book' => eq_of_redeem_eq_error,
    fun code voucher email e book' => eq_of_release_eq_error, ?_⟩
  intro voucher terms key code email hterms hcode honce hknown hroom
  have hcount : (countUse terms key).runOn book =
      (.ok (), book.withCode key (·.counted terms)) :=
    countUse_eq_ok.2 ⟨fun limit hlimit => ⟨code, hcode, hroom limit hlimit⟩, rfl⟩
  have hnote : (noteCustomer terms key email true).runOn
      (book.withCode key (·.counted terms)) =
        (.error (.notApplicable .oncePerCustomer), book) := by
    have hthere : ((book.withCode key (·.counted terms)).codes.get? key).isSome := by
      rw [isSome_get?_withCode, hcode]
      rfl
    have hback : (book.withCode key (·.counted terms)).withCode key (·.uncounted terms) = book :=
      withCode_withCode.trans (withCode_eq_self fun code _ => VoucherCode.uncounted_counted)
    rw [runOn_noteCustomer_of_mem (by simp [honce]) hthere hknown, hback]
  refine ⟨hcount, hnote, ?_⟩
  rw [redeem, Step.runOn_get_bind, hterms]
  refine Step.runOn_bind_eq_error.2 (.inr ⟨(), _, hcount, ?_⟩)
  exact Step.runOn_bind_eq_error.2 (.inl hnote)

/-- The book after a customer has redeemed a code that may be used twice. -/
def usedOnce : Vouchers where
  vouchers := Registry.empty.push twice
  codes := Registry.empty.push ⟨⟨1⟩, "TWICE", 1, true⟩
  index := [("TWICE", ⟨1⟩)]
  customers := [(⟨1⟩, "a@x")]

/-- The customer is refused the second time. A second use would be counted for another one. -/
theorem unchanged_of_refused_twice : (∃ events : List (Event String), Served events usedOnce) ∧
    (countUse twice ⟨1⟩).runOn usedOnce = (.ok (), usedOnce.withCode ⟨1⟩ (·.counted twice)) ∧
    (usedOnce.withCode ⟨1⟩ (·.counted twice)).codes.get? ⟨1⟩ = some ⟨⟨1⟩, "TWICE", 2, true⟩ ∧
    (redeem ⟨1⟩ ⟨1⟩ "a@x" true).runOn usedOnce =
      (.error (.notApplicable .oncePerCustomer), usedOnce) := by
  have hopened := (Served.nil.snoc "shop" (.addVoucher twice) trivial).snoc "shop"
    (.addCode ⟨1⟩ "TWICE") trivial
  have hused := hopened.snoc "a" (.redeem ⟨1⟩ ⟨1⟩ "a@x" true) fun code hcode =>
    Option.some.inj (hcode : some (VoucherCode.mk ⟨1⟩ "TWICE" 0 true) = some code) ▸ rfl
  obtain ⟨hcount, -, hrefused⟩ := (unchanged_of_refused usedOnce).2.2 ⟨1⟩ twice ⟨1⟩
    ⟨⟨1⟩, "TWICE", 1, true⟩ "a@x" rfl rfl rfl (List.mem_singleton_self _)
    fun limit hlimit => Option.some.inj hlimit ▸ by decide
  exact ⟨⟨_, hused⟩, hcount, rfl, hrefused⟩

/-- Requests lead to the same book without those that are refused. -/
theorem Served.succeeded (h : Served events book) :
    Served (events.filter (·.outcome.isOk)) book := by
  induction h with
  | nil => exact .nil
  | @snoc events book served client request fits ih =>
    have heffect : request.Effect book _ _ := effect_serve
    have hsnoc := ih.snoc client request fits
    rw [List.filter_append]
    rcases hserve : request.serve.runOn book with ⟨e | answer, book'⟩
    · rw [hserve] at heffect
      cases heffect
      rwa [List.filter_singleton, Except.isOk, Except.toBool, Bool.cond_false, List.append_nil]
    · rw [hserve] at hsnoc
      exact hsnoc

/-! ## Releasing what was redeemed -/

/-- A release after a redemption takes back all that the redemption did, and opens a code of a
single use. -/
theorem release_redeemed (hterms : book.vouchers.get? voucher = some terms)
    (hredeem : (redeem voucher key email track).runOn book = (.ok u, book')) :
    (release (some key) (some voucher)
      (if terms.oncePerCustomer && track then some email else none)).runOn book' =
        (.ok (), book.withCode key (·.switched terms true)) := by
  obtain ⟨_, hknown, haccepts, rfl⟩ := redeem_eq_ok.1 hredeem
  obtain rfl := Option.some.inj (hterms.symm.trans hknown)
  refine release_eq_ok.2 ⟨some terms, congrArg some hterms, fun named hnamed hasks => ?_, ?_⟩
  · obtain rfl := Option.some.inj hnamed
    rw [redeemed, Registry.get?_modify, if_pos rfl, Option.isSome_map]
    rcases hasks with hlimited | hsingle
    · obtain ⟨limit, hlimit⟩ := Option.isSome_iff_exists.1 hlimited
      obtain ⟨code, hcode, -⟩ := haccepts.room limit hlimit
      rw [hcode]
      rfl
    · exact haccepts.code hsingle
  · have hcodes : (book.redeemed terms key email track).codes.modify key (·.released terms) =
        book.codes.modify key (·.switched terms true) := by
      rw [redeemed, Registry.modify_modify]
      exact Registry.modify_congr fun code _ => VoucherCode.released_redeemed
    rw [released, withCode]
    refine congrArg₂ (Vouchers.mk book.vouchers · book.index ·) hcodes.symm ?_
    unfold redeemed
    split
    · next htrack =>
      obtain ⟨-, hnew⟩ := haccepts.customer htrack
      have hothers : book.customers.filter (fun row => row != (key, email)) = book.customers := by
        refine List.filter_eq_self.2 fun row hrow => bne_iff_ne.2 ?_
        rintro rfl
        exact hnew hrow
      simp [hothers]
    · simp

/-- A release after a redemption leaves the book as it was, with all counters, codes and customers,
whatever limits the voucher has. -/
theorem restored_of_release (hterms : book.vouchers.get? voucher = some terms)
    (hcode : book.codes.get? key = some code) (hactive : code.isActive)
    (hredeem : (redeem voucher key email track).runOn book = (.ok u, book')) :
    (release (some key) (some voucher)
      (if terms.oncePerCustomer && track then some email else none)).runOn book' =
        (.ok (), book) := by
  have hopen : book.withCode key (·.switched terms true) = book := by
    refine withCode_eq_self fun other hother => ?_
    obtain rfl := Option.some.inj (hcode.symm.trans hother)
    exact VoucherCode.switched_of_isActive hactive
  rw [release_redeemed hterms hredeem, hopen]

/-- A voucher with every limit on its use. -/
def trial : Voucher :=
  { twice with singleUse := true }

/-- A customer redeems a code, which is counted, noted and closed, and releases it again. -/
theorem restored_of_release_trial : ∃ (events : List (Event String)) (book book' : Vouchers),
    Served events book ∧ book.codes.get? ⟨1⟩ = some ⟨⟨1⟩, "TRIAL", 0, true⟩ ∧
    (redeem ⟨1⟩ ⟨1⟩ "a@x" true).runOn book = (.ok (), book') ∧
    book'.codes.get? ⟨1⟩ = some ⟨⟨1⟩, "TRIAL", 1, false⟩ ∧ book'.customers = [(⟨1⟩, "a@x")] ∧
    (release (some ⟨1⟩) (some ⟨1⟩) (some "a@x")).runOn book' = (.ok (), book) := by
  have hopened := (Served.nil.snoc "shop" (.addVoucher trial) trivial).snoc "shop"
    (.addCode ⟨1⟩ "TRIAL") trivial
  exact ⟨_, _, _, hopened, rfl, rfl, rfl, rfl,
    @restored_of_release _ _ ⟨1⟩ ⟨⟨1⟩, "TRIAL", 0, true⟩ ⟨1⟩ trial "a@x" true () rfl rfl rfl rfl⟩

end Vouchers

end Retail
