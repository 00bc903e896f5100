import Retail.Proofs.Voucher.Effect

/-!
# Sequences of requests

A request either is refused, and then the book stays as it is, or does one thing to the book. That
is said once, for each kind of request, and what a sequence of requests keeps follows from it.

## Main definitions

* `Vouchers.Request.Effect`: what a request does to the book
* `Vouchers.Leads`: requests of clients that lead from one book to another
* `Vouchers.Extends`: a book that still has the vouchers and codes of another one

## Main results

* `Vouchers.eq_of_serve_eq_error`: a refused request changes nothing
* `Vouchers.effect_serve`: every request does what its kind does
* `Vouchers.Served.exists_leads`: a sequence of requests in two parts
* `Vouchers.Leads.extends`: vouchers and codes stay
-/

namespace Retail

namespace Vouchers

variable {Client : Type} {book book' start : Vouchers} {key : CodeKey} {code : VoucherCode}
  {voucher : VoucherKey} {terms : Voucher} {email : String} {track : Bool}
  {events more : List (Event Client)} {event : Event Client} {request : Request}
  {outcome : Except VoucherError Answer}

/-! ## Requests -/

/-- What a request does, and what it is answered. -/
inductive Request.Effect (book : Vouchers) : Request → Except VoucherError Answer → Vouchers → Prop
    where
  | refused (request : Request) (error : VoucherError) :
      Effect book request (.error error) book
  | addVoucher (terms : Voucher) :
      Effect book (.addVoucher terms) (.ok (.voucher book.vouchers.nextKey))
        (book.addVoucher terms).1
  | addCode {voucher : VoucherKey} {text : String} {key : CodeKey} {book' : Vouchers}
      (entered : book.addCode voucher text = .ok (book', key)) :
      Effect book (.addCode voucher text) (.ok (.code key)) book'
  | find {text : String} {channel : ChannelKey} {now : Instant} {key : CodeKey}
      (usable : book.usableCode text channel now = .ok key) :
      Effect book (.find text channel now) (.ok (.code key)) book
  | validate (voucher : VoucherKey) (total : Money) (quantity : Nat) (email : Option String)
      (channel : ChannelKey) (customer : Option Customer) :
      Effect book (.validate voucher total quantity email channel customer) (.ok .done) book
  | redeem {voucher : VoucherKey} {terms : Voucher} {key : CodeKey} {email : String} {track : Bool}
      (known : book.vouchers.get? voucher = some terms)
      (accepts : book.Accepts terms key email track) :
      Effect book (.redeem voucher key email track) (.ok .done)
        (book.redeemed terms key email track)
  | release {key : CodeKey} {voucher : Option VoucherKey} {terms : Option Voucher}
      {email : Option String} (known : voucher.map book.vouchers.get? = terms.map some) :
      Effect book (.release (some key) voucher email) (.ok .done) (book.released key terms email)
  | releaseNothing (voucher : Option VoucherKey) (email : Option String) :
      Effect book (.release none voucher email) (.ok .done) book

/-- A refused request has changed nothing, whatever its kind. -/
theorem eq_of_serve_eq_error {e : VoucherError}
    (h : request.serve.runOn book = (.error e, book')) : book' = book := by
  cases request with
  | addVoucher terms => exact nomatch h
  | addCode voucher text => exact (change_eq_error.1 (Step.runOn_bind_pure_eq_error.1 h)).2
  | find text channel now =>
    rw [Request.serve, Step.runOn_get_bind] at h
    have hread := Step.runOn_bind_pure_eq_error.1 h
    exact (Prod.mk.inj hread).2.symm
  | validate voucher total quantity email channel customer =>
    rw [Request.serve, Step.runOn_get_bind] at h
    have hread := Step.runOn_bind_pure_eq_error.1 h
    exact (Prod.mk.inj hread).2.symm
  | redeem voucher key email track =>
    exact eq_of_redeem_eq_error (Step.runOn_bind_pure_eq_error.1 h)
  | release code voucher email =>
    exact eq_of_release_eq_error (Step.runOn_bind_pure_eq_error.1 h)

/-- Every request does what its kind does, and one that is refused does nothing. -/
theorem effect_serve :
    request.Effect book (request.serve.runOn book).1 (request.serve.runOn book).2 := by
  rcases hserve : request.serve.runOn book with ⟨e | answer, book'⟩
  · obtain rfl := eq_of_serve_eq_error hserve
    exact .refused request e
  · cases request with
    | addVoucher terms =>
      obtain ⟨hanswer, rfl⟩ := Prod.mk.inj hserve
      obtain rfl := Except.ok.inj hanswer
      exact .addVoucher terms
    | addCode voucher text =>
      obtain ⟨key, hchange, rfl⟩ := Step.runOn_bind_pure_eq_ok.1 hserve
      exact .addCode (change_eq_ok.1 hchange)
    | find text channel now =>
      rw [Request.serve, Step.runOn_get_bind] at hserve
      obtain ⟨key, hread, rfl⟩ := Step.runOn_bind_pure_eq_ok.1 hserve
      obtain ⟨husable, rfl⟩ := Prod.mk.inj hread
      exact .find husable
    | validate voucher total quantity email channel customer =>
      rw [Request.serve, Step.runOn_get_bind] at hserve
      obtain ⟨_, hread, rfl⟩ := Step.runOn_bind_pure_eq_ok.1 hserve
      obtain ⟨-, rfl⟩ := Prod.mk.inj hread
      exact .validate voucher total quantity email channel customer
    | redeem voucher key email track =>
      obtain ⟨_, hredeem, rfl⟩ := Step.runOn_bind_pure_eq_ok.1 hserve
      obtain ⟨terms, hterms, haccepts, rfl⟩ := redeem_eq_ok.1 hredeem
      exact .redeem hterms haccepts
    | release code voucher email =>
      obtain ⟨_, hrelease, rfl⟩ := Step.runOn_bind_pure_eq_ok.1 hserve
      cases code with
      | none =>
        obtain ⟨-, rfl⟩ := Prod.mk.inj hrelease
        exact .releaseNothing voucher email
      | some key =>
        obtain ⟨terms, hterms, -, rfl⟩ := release_eq_ok.1 hrelease
        exact .release hterms

/-! ## Sequences -/

/-- Requests of clients that lead from one book to another. -/
inductive Leads (start : Vouchers) : List (Event Client) → Vouchers → Prop where
  | nil : Leads start [] start
  | snoc {events : List (Event Client)} {book : Vouchers} (led : Leads start events book)
      (client : Client) (request : Request) (fits : request.Fits book) :
      Leads start (events ++ [⟨client, request, (request.serve.runOn book).1⟩])
        (request.serve.runOn book).2

/-- What each request keeps holds after all of them. -/
@[elab_as_elim]
theorem Leads.effect_induction
    {motive : ∀ (events : List (Event Client)) (book : Vouchers), Leads start events book → Prop}
    (nil : motive [] start .nil)
    (snoc : ∀ events book event book' (led : Leads start events book)
      (leads : Leads start (events ++ [event]) book'), event.request.Fits book →
      event.request.Effect book event.outcome book' → motive events book led →
      motive (events ++ [event]) book' leads)
    {events : List (Event Client)} {book : Vouchers} (h : Leads start events book) :
    motive events book h := by
  induction h with
  | nil => exact nil
  | snoc led client request fits ih =>
    exact snoc _ _ ⟨client, request, _⟩ _ led (led.snoc client request fits) fits effect_serve ih

theorem Served.exists_of_snoc (h : Served (events ++ [event]) book') :
    ∃ book, Served events book ∧ event.request.Fits book ∧
      event.request.Effect book event.outcome book' := by
  generalize hall : events ++ [event] = all at h
  cases h with
  | nil => simp at hall
  | @snoc before book served client request fits =>
    obtain ⟨rfl, hevent⟩ := List.append_inj' hall rfl
    obtain rfl := (List.cons.inj hevent).1
    exact ⟨book, served, fits, effect_serve⟩

theorem Served.leads (h : Served events book) : Leads .empty events book := by
  induction h with
  | nil => exact .nil
  | snoc _ client request fits ih => exact ih.snoc client request fits

/-- After the first requests the others lead on. -/
theorem Served.exists_leads (h : Served (events ++ more) book) :
    ∃ middle, Served events middle ∧ Leads middle more book := by
  generalize hall : events ++ more = all at h
  induction h generalizing more with
  | nil =>
    obtain ⟨rfl, rfl⟩ := List.append_eq_nil_iff.1 hall
    exact ⟨_, .nil, .nil⟩
  | @snoc before book served client request fits ih =>
    rcases more.eq_nil_or_concat' with rfl | ⟨more, last, rfl⟩
    · rw [List.append_nil] at hall
      exact ⟨_, hall ▸ served.snoc client request fits, .nil⟩
    · rw [← List.append_assoc] at hall
      obtain ⟨hbefore, hlast⟩ := List.append_inj' hall rfl
      obtain ⟨middle, hmiddle, hleads⟩ := ih hbefore
      obtain rfl := (List.cons.inj hlast).1
      exact ⟨middle, hmiddle, hleads.snoc client request fits⟩

/-! ## Vouchers and codes stay -/

/-- The book has the vouchers of another one, and its codes under the same vouchers. -/
structure Extends (book' book : Vouchers) : Prop where
  vouchers : ∀ voucher terms, book.vouchers.get? voucher = some terms →
    book'.vouchers.get? voucher = some terms
  codes : ∀ key code, book.codes.get? key = some code →
    ∃ code', book'.codes.get? key = some code' ∧ code'.voucher = code.voucher

namespace Extends

theorem refl (book : Vouchers) : book.Extends book :=
  ⟨fun _ _ => id, fun _ code hcode => ⟨code, hcode, rfl⟩⟩

theorem trans (h : start.Extends book) (h' : book.Extends book') : start.Extends book' where
  vouchers voucher terms hterms := h.vouchers voucher terms (h'.vouchers voucher terms hterms)
  codes key code hcode := by
    obtain ⟨middle, hmiddle, hvoucher⟩ := h'.codes key code hcode
    obtain ⟨last, hlast, hvoucher'⟩ := h.codes key middle hmiddle
    exact ⟨last, hlast, hvoucher'.trans hvoucher⟩

theorem of_modify {f : VoucherCode → VoucherCode} (hvouchers : book'.vouchers = book.vouchers)
    (hcodes : book'.codes = book.codes.modify key f)
    (hf : ∀ code, (f code).voucher = code.voucher) : book'.Extends book where
  vouchers voucher terms hterms := hvouchers ▸ hterms
  codes other code hcode := by
    rw [hcodes, Registry.get?_modify]
    split
    · next heq =>
      rw [heq] at hcode
      exact ⟨f code, by rw [hcode, Option.map_some], hf code⟩
    · exact ⟨code, hcode, rfl⟩

end Extends

theorem Request.Effect.extends (h : request.Effect book outcome book') : book'.Extends book := by
  cases h with
  | refused | find | validate | releaseNothing => exact .refl book
  | addVoucher terms =>
    exact ⟨fun _ _ => Registry.get?_push_of_eq_some, fun _ code hcode => ⟨code, hcode, rfl⟩⟩
  | addCode entered =>
    obtain ⟨-, -, -, rfl⟩ := addCode_eq_ok.1 entered
    exact ⟨fun _ _ => id, fun _ code hcode => ⟨code, Registry.get?_push_of_eq_some hcode, rfl⟩⟩
  | @redeem _ terms => exact .of_modify (f := (·.redeemed terms)) rfl rfl fun _ => rfl
  | @release _ _ terms =>
    refine .of_modify (f := fun code => terms.elim code code.released) rfl rfl fun code => ?_
    cases terms <;> rfl

theorem Leads.extends (h : Leads start events book) : book.Extends start := by
  induction h using Leads.effect_induction with
  | nil => exact .refl start
  | snoc _ _ _ _ _ _ _ heffect ih => exact heffect.extends.trans ih

end Vouchers

end Retail
