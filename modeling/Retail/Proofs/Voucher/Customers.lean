import Retail.Proofs.Voucher.Sequence

/-!
# Customers of a voucher

A voucher may be for one use per customer. Customers are noted with the code that they have used,
and a redemption asks about its own code: a customer who has used one code of the voucher may still
use each of the others, once. Whether a customer has used the voucher is asked about all of its
codes.

## Main definitions

* `Vouchers.Outstanding`: a customer has used a code, and that use was not released

## Main results

* `Vouchers.Served.mem_customers`: the customers that are noted are those with an outstanding use
* `Vouchers.Served.redeem_iff_not_outstanding`: who may redeem a code, and who has used the voucher
-/

namespace Retail

namespace Vouchers

variable {Client : Type} {book book' start : Vouchers} {key : CodeKey} {code : VoucherCode}
  {voucher : VoucherKey} {terms : Voucher} {email : String} {events : List (Event Client)}
  {event : Event Client}

/-! ## Uses of customers -/

/-- A client redeemed a voucher through a code, and the customer was to be noted. -/
def Event.Uses (event : Event Client) (voucher : VoucherKey) (key : CodeKey) (email : String) :
    Prop :=
  event.request = .redeem voucher key email true ∧ event.outcome = .ok .done

/-- A client released a code for a customer. -/
def Event.Returns (event : Event Client) (key : CodeKey) (email : String) : Prop :=
  (∃ voucher, event.request = .release (some key) voucher (some email)) ∧
    event.outcome = .ok .done

/-- The voucher was redeemed for the customer through the code, and the code was not released for
the customer since then. -/
def Outstanding (events : List (Event Client)) (voucher : VoucherKey) (key : CodeKey)
    (email : String) : Prop :=
  ∃ before use after, events = before ++ use :: after ∧ use.Uses voucher key email ∧
    ∀ event ∈ after, ¬event.Returns key email

theorem not_outstanding_nil : ¬Outstanding ([] : List (Event Client)) voucher key email := by
  rintro ⟨before, use, after, hsplit, -⟩
  simp at hsplit

/-- The last request decides, if it is about this use. -/
theorem outstanding_snoc :
    Outstanding (events ++ [event]) voucher key email ↔
      event.Uses voucher key email ∨
        Outstanding events voucher key email ∧ ¬event.Returns key email := by
  constructor
  · rintro ⟨before, use, after, hsplit, huse, hkept⟩
    rcases after.eq_nil_or_concat' with rfl | ⟨after, last, rfl⟩
    · obtain ⟨-, hlast⟩ := List.append_inj' hsplit rfl
      obtain rfl := (List.cons.inj hlast).1
      exact .inl huse
    · rw [← List.cons_append, ← List.append_assoc] at hsplit
      obtain ⟨hevents, hlast⟩ := List.append_inj' hsplit rfl
      obtain rfl := (List.cons.inj hlast).1
      rw [List.forall_mem_append, List.forall_mem_singleton] at hkept
      exact .inr ⟨⟨before, use, after, hevents, huse, hkept.1⟩, hkept.2⟩
  · rintro (huse | ⟨⟨before, use, after, rfl, huse, hkept⟩, hlast⟩)
    · exact ⟨events, event, [], rfl, huse, List.forall_mem_nil _⟩
    · refine ⟨before, use, after ++ [event], by simp, huse, ?_⟩
      rw [List.forall_mem_append, List.forall_mem_singleton]
      exact ⟨hkept, hlast⟩

/-! ## Customers that are noted -/

/-- A redemption notes its customer, and a release forgets the one that it names. -/
theorem mem_customers_of_effect (heffect : event.request.Effect book event.outcome book') :
    (key, email) ∈ book'.customers ↔
      (∃ voucher terms, event.Uses voucher key email ∧
        book.vouchers.get? voucher = some terms ∧ terms.oncePerCustomer) ∨
      (key, email) ∈ book.customers ∧ ¬event.Returns key email := by
  obtain ⟨client, request, outcome⟩ := event
  cases heffect with
  | refused | find | validate | releaseNothing | addVoucher =>
    simp [Event.Uses, Event.Returns, Vouchers.addVoucher]
  | addCode entered =>
    obtain ⟨-, -, -, rfl⟩ := addCode_eq_ok.1 entered
    simp [Event.Uses, Event.Returns]
  | @redeem voucher terms other customer track known accepts =>
    have huses (voucher' : VoucherKey) :
        Event.Uses ⟨client, .redeem voucher other customer track, .ok .done⟩ voucher' key email ↔
          (voucher = voucher' ∧ other = key ∧ customer = email) ∧ track := by
      simp [Event.Uses, and_assoc]
    have hreturns :
        ¬Event.Returns ⟨client, .redeem voucher other customer track, .ok .done⟩ key email := by
      simp [Event.Returns]
    simp only [huses, hreturns, not_false_eq_true, and_true, redeemed]
    by_cases htrack : (terms.oncePerCustomer && track) = true
    · rw [if_pos htrack, List.mem_append, List.mem_singleton, Prod.mk.injEq]
      rw [Bool.and_eq_true] at htrack
      constructor
      · rintro (hmem | ⟨rfl, rfl⟩)
        · exact .inr hmem
        · exact .inl ⟨voucher, terms, ⟨⟨rfl, rfl, rfl⟩, htrack.2⟩, known, htrack.1⟩
      · rintro (⟨_, _, ⟨⟨-, rfl, rfl⟩, -⟩, -, -⟩ | hmem)
        · exact .inr ⟨rfl, rfl⟩
        · exact .inl hmem
    · rw [if_neg htrack]
      refine ⟨.inr, ?_⟩
      rintro (⟨voucher', terms', ⟨⟨rfl, -, -⟩, htracked⟩, known', honce⟩ | hmem)
      · obtain rfl : terms = terms' := Option.some.inj (known.symm.trans known')
        exact absurd (Bool.and_eq_true_iff.2 ⟨honce, htracked⟩) htrack
      · exact hmem
  | @release other _ terms customer known =>
    cases customer with
    | none => simp [Event.Uses, Event.Returns, released]
    | some customer =>
      simp [Event.Uses, Event.Returns, released, eq_comm (a := other), eq_comm (a := customer)]

theorem Event.Uses.exists_accepts (huse : event.Uses voucher key email)
    (heffect : event.request.Effect book event.outcome book') :
    ∃ terms, book.vouchers.get? voucher = some terms ∧ book.Accepts terms key email true := by
  obtain ⟨client, request, outcome⟩ := event
  obtain ⟨rfl, rfl⟩ := huse
  cases heffect with
  | redeem known accepts => exact ⟨_, known, accepts⟩

/-- A customer is noted with a code that is there, for a use of its voucher. -/
theorem Leads.exists_code_of_mem_customers (h : Leads .empty events book)
    (hmem : (key, email) ∈ book.customers) :
    ∃ code, book.codes.get? key = some code ∧ Outstanding events code.voucher key email := by
  induction h using Leads.effect_induction with
  | nil => exact nomatch hmem
  | snoc events book event book' _ _ hfits heffect ih =>
    rcases (mem_customers_of_effect heffect).1 hmem with
      ⟨voucher, terms, huse, hterms, honce⟩ | ⟨hmem, hkept⟩
    · obtain ⟨found, hfound, haccepts⟩ := huse.exists_accepts heffect
      obtain rfl : terms = found := Option.some.inj (hterms.symm.trans hfound)
      have hthere := (haccepts.customer (Bool.and_eq_true_iff.2 ⟨honce, rfl⟩)).1
      obtain ⟨code, hcode⟩ := Option.isSome_iff_exists.1 hthere
      obtain ⟨code', hcode', hvoucher⟩ := heffect.extends.codes key code hcode
      rw [huse.1] at hfits
      obtain rfl : code'.voucher = voucher := hvoucher.trans (hfits code hcode)
      exact ⟨code', hcode', outstanding_snoc.2 (.inl huse)⟩
    · obtain ⟨code, hcode, houtstanding⟩ := ih hmem
      obtain ⟨code', hcode', hvoucher⟩ := heffect.extends.codes key code hcode
      exact ⟨code', hcode', outstanding_snoc.2 (.inr ⟨hvoucher ▸ houtstanding, hkept⟩)⟩

/-- The voucher of an outstanding use is there, and its customer is noted where that matters. -/
theorem Leads.exists_voucher_of_outstanding (h : Leads .empty events book)
    (houtstanding : Outstanding events voucher key email) :
    ∃ terms, book.vouchers.get? voucher = some terms ∧
      (terms.oncePerCustomer → (key, email) ∈ book.customers) := by
  induction h using Leads.effect_induction with
  | nil => exact absurd houtstanding not_outstanding_nil
  | snoc events book event book' _ _ _ heffect ih =>
    rcases outstanding_snoc.1 houtstanding with huse | ⟨houtstanding, hkept⟩
    · obtain ⟨terms, hterms, -⟩ := huse.exists_accepts heffect
      exact ⟨terms, heffect.extends.vouchers _ _ hterms, fun honce =>
        (mem_customers_of_effect heffect).2 (.inl ⟨voucher, terms, huse, hterms, honce⟩)⟩
    · obtain ⟨terms, hterms, hmem⟩ := ih houtstanding
      exact ⟨terms, heffect.extends.vouchers _ _ hterms, fun honce =>
        (mem_customers_of_effect heffect).2 (.inr ⟨hmem honce, hkept⟩)⟩

/-- The customers that are noted with a code are those who have used it and did not return it. -/
theorem Served.mem_customers (h : Served events book) (hcode : book.codes.get? key = some code)
    (hterms : book.vouchers.get? code.voucher = some terms) (honce : terms.oncePerCustomer) :
    (key, email) ∈ book.customers ↔ Outstanding events code.voucher key email := by
  constructor
  · intro hmem
    obtain ⟨found, hfound, houtstanding⟩ := h.leads.exists_code_of_mem_customers hmem
    obtain rfl := Option.some.inj (hcode.symm.trans hfound)
    exact houtstanding
  · intro houtstanding
    obtain ⟨found, hfound, hmem⟩ := h.leads.exists_voucher_of_outstanding houtstanding
    obtain rfl := Option.some.inj (hterms.symm.trans hfound)
    exact hmem honce

/-! ## Who may redeem -/

theorem customerHasUsed_iff : book.customerHasUsed voucher email ↔
    ∃ key code, (key, email) ∈ book.customers ∧ book.codes.get? key = some code ∧
      code.voucher = voucher := by
  simp only [customerHasUsed, List.any_eq_true, Prod.exists, Bool.and_eq_true, beq_iff_eq,
    Option.any_eq_true]
  constructor
  · rintro ⟨key, customer, hmem, rfl, code, hcode, hvoucher⟩
    exact ⟨key, code, hmem, hcode, hvoucher⟩
  · rintro ⟨key, code, hmem, hcode, hvoucher⟩
    exact ⟨key, email, hmem, rfl, code, hcode, hvoucher⟩

/-- A customer may redeem a code of a voucher that is for one use per customer as long as there is
room for a use and the customer has no outstanding use of this code. A customer who has an
outstanding use of any of its codes has used the voucher. -/
theorem Served.redeem_iff_not_outstanding (h : Served events book)
    (hcode : book.codes.get? key = some code)
    (hterms : book.vouchers.get? code.voucher = some terms) (honce : terms.oncePerCustomer)
    (email : String) :
    ((∃ book', (redeem code.voucher key email true).runOn book = (.ok (), book')) ↔
      (∀ limit, terms.limit? = some limit → code.used < min limit maxUsage) ∧
        ¬Outstanding events code.voucher key email) ∧
    (book.customerHasUsed code.voucher email ↔
      ∃ other otherCode, book.codes.get? other = some otherCode ∧
        otherCode.voucher = code.voucher ∧ Outstanding events code.voucher other email) := by
  constructor
  · simp only [redeem_eq_ok, hterms, Option.some.injEq, exists_eq_left', exists_and_left,
      exists_eq, and_true]
    rw [← h.mem_customers hcode hterms honce]
    constructor
    · intro haccepts
      refine ⟨fun limit hlimit => ?_, (haccepts.customer (Bool.and_eq_true_iff.2 ⟨honce, rfl⟩)).2⟩
      obtain ⟨found, hfound, hroom⟩ := haccepts.room limit hlimit
      obtain rfl := Option.some.inj (hcode.symm.trans hfound)
      exact hroom
    · rintro ⟨hroom, hnew⟩
      have hthere : (book.codes.get? key).isSome := Option.isSome_iff_exists.2 ⟨code, hcode⟩
      exact ⟨fun limit hlimit => ⟨code, hcode, hroom limit hlimit⟩, fun _ => ⟨hthere, hnew⟩,
        fun _ => hthere⟩
  · rw [customerHasUsed_iff]
    constructor
    · rintro ⟨other, found, hmem, hfound, hvoucher⟩
      refine ⟨other, found, hfound, hvoucher, hvoucher ▸ ?_⟩
      exact (h.mem_customers hfound (hvoucher ▸ hterms) honce).1 hmem
    · rintro ⟨other, found, hfound, hvoucher, houtstanding⟩
      refine ⟨other, found, ?_, hfound, hvoucher⟩
      exact (h.mem_customers hfound (hvoucher ▸ hterms) honce).2 (hvoucher ▸ houtstanding)

/-- A voucher for one use per customer. -/
def welcome : Voucher where
  name := none
  voucherType := .entireOrder
  valueType := .percentage
  usageLimit := none
  singleUse := false
  oncePerCustomer := true
  oncePerOrder := false
  onlyForStaff := false
  minItems := none
  start := ⟨0⟩
  finish := none
  listings := []

/-- A customer has used the first of two codes of the voucher. -/
theorem exists_welcome_used : ∃ (events : List (Event String)) (book : Vouchers),
    Served events book ∧ Outstanding events ⟨1⟩ ⟨1⟩ "a@x" ∧
    book.vouchers.get? ⟨1⟩ = some welcome ∧
    book.codes.get? ⟨1⟩ = some ⟨⟨1⟩, "HELLO", 0, true⟩ ∧
    book.codes.get? ⟨2⟩ = some ⟨⟨1⟩, "AGAIN", 0, true⟩ ∧
    ∃ book', (redeem ⟨1⟩ ⟨2⟩ "a@x" true).runOn book = (.ok (), book') := by
  have hopened := (Served.nil.snoc "shop" (.addVoucher welcome) trivial).snoc "shop"
    (.addCode ⟨1⟩ "HELLO") trivial
  have hcodes := hopened.snoc "shop" (.addCode ⟨1⟩ "AGAIN") trivial
  have hused := hcodes.snoc "a" (.redeem ⟨1⟩ ⟨1⟩ "a@x" true) fun code hcode =>
    Option.some.inj (hcode : some (VoucherCode.mk ⟨1⟩ "HELLO" 0 true) = some code) ▸ rfl
  exact ⟨_, _, hused, outstanding_snoc.2 (.inl ⟨rfl, rfl⟩), rfl, rfl, rfl, _, rfl⟩

/-- The customer may not use the first code again, and has used the voucher. -/
theorem welcome_refused_while_outstanding : ∃ (events : List (Event String)) (book : Vouchers),
    Served events book ∧
    (¬∃ book', (redeem ⟨1⟩ ⟨1⟩ "a@x" true).runOn book = (.ok (), book')) ∧
    book.customerHasUsed ⟨1⟩ "a@x" := by
  obtain ⟨events, book, hserved, houtstanding, hterms, hcode, -⟩ := exists_welcome_used
  obtain ⟨hredeem, hused⟩ := hserved.redeem_iff_not_outstanding hcode hterms rfl "a@x"
  exact ⟨events, book, hserved, fun h => (hredeem.1 h).2 houtstanding,
    hused.2 ⟨⟨1⟩, _, hcode, rfl, houtstanding⟩⟩

/-- A customer with an outstanding use of one code may still use another one of the voucher. -/
theorem not_always_refused_while_outstanding : ¬∀ (events : List (Event String)) (book : Vouchers)
    (voucher : VoucherKey) (terms : Voucher) (used other : CodeKey)
    (usedCode otherCode : VoucherCode) (email : String), Served events book →
    book.vouchers.get? voucher = some terms →
    terms.oncePerCustomer → book.codes.get? used = some usedCode → usedCode.voucher = voucher →
    book.codes.get? other = some otherCode → otherCode.voucher = voucher →
    Outstanding events voucher used email →
    ¬∃ book', (redeem voucher other email true).runOn book = (.ok (), book') := by
  intro h
  obtain ⟨events, book, hserved, houtstanding, hterms, hcode, hother, hredeemed⟩ :=
    exists_welcome_used
  exact h events book _ _ _ _ _ _ _ hserved hterms rfl hcode rfl hother rfl houtstanding hredeemed

end Vouchers

end Retail
