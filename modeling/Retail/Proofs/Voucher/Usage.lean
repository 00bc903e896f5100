import Retail.Basket
import Retail.Proofs.Failure
import Retail.Voucher.Usage

/-!
# Limits of usage

Clients enter, look up, check, redeem and release vouchers, each of them at any time, and the book
serves one request after the other. No code is used more often than its voucher allows, however the
requests of the clients follow on each other and whichever of them fail.

## Main definitions

* `Vouchers.Request`, `Vouchers.Request.serve`: what clients ask of the book
* `Vouchers.Served`: the books that requests of clients lead to, with what was answered on the way
* `Vouchers.WithinLimits`: no code is used more often than its voucher allows

## Main results

* `Vouchers.WithinLimits.serve`: a request keeps the limits
* `Vouchers.Served.withinLimits`: any number of requests keep them
* `Vouchers.runOn_redeem_of_le_used`: a code that is used up is refused
-/

namespace Retail

namespace Vouchers

/-! ## Requests -/

/-- What a client asks of the book. -/
inductive Request where
  | addVoucher (voucher : Voucher)
  | addCode (voucher : VoucherKey) (text : String)
  | find (text : String) (channel : ChannelKey) (now : Instant)
  | validate (voucher : VoucherKey) (total : Money) (quantity : Nat) (email : Option String)
      (channel : ChannelKey) (customer : Option Customer)
  | redeem (voucher : VoucherKey) (code : CodeKey) (email : String) (track : Bool)
  | release (code : Option CodeKey) (voucher : Option VoucherKey) (email : Option String)

/-- What a client is told when its request succeeds. -/
inductive Answer where
  | voucher (key : VoucherKey)
  | code (key : CodeKey)
  | done

/-- The book serves a request. -/
def Request.serve : Request → Step Vouchers VoucherError Answer
  | .addVoucher voucher => do
    let (book, key) := (← get).addVoucher voucher
    set book
    return .voucher key
  | .addCode voucher text => return .code (← change (·.addCode voucher text))
  | .find text channel now => do
    return .code (← Step.answer ((← get).usableCode text channel now))
  | .validate voucher total quantity email channel customer => do
    Step.answer ((← get).validate voucher total quantity email channel customer)
    return .done
  | .redeem voucher code email track => do
    Vouchers.redeem voucher code email track
    return .done
  | .release code voucher email => do
    Vouchers.release code voucher email
    return .done

/-- A redemption names a code of its voucher. -/
def Request.Fits (book : Vouchers) : Request → Prop
  | .redeem voucher key _ _ => ∀ code, book.codes.get? key = some code → code.voucher = voucher
  | _ => True

/-- A request of a client, and what it was told. -/
structure Event (Client : Type) where
  client : Client
  request : Request
  outcome : Except VoucherError Answer

/-- The book that requests lead to from the empty one. The next request is that of any client,
whatever the others have asked for before. -/
inductive Served {Client : Type} : List (Event Client) → Vouchers → Prop where
  | nil : Served [] .empty
  | snoc {events : List (Event Client)} {book : Vouchers} (served : Served events book)
      (client : Client) (request : Request) (fits : request.Fits book) :
      Served (events ++ [⟨client, request, (request.serve.runOn book).1⟩])
        (request.serve.runOn book).2

/-! ## What the limits allow -/

end Vouchers

/-- A voucher allows a number of uses of each of its codes; a limit of zero is no limit. -/
def Voucher.Allows (voucher : Voucher) (used : Nat) : Prop :=
  ∀ limit, voucher.usageLimit = some limit → 0 < limit → used ≤ limit

theorem Voucher.limit?_eq_some {voucher : Voucher} {limit : Nat} :
    voucher.limit? = some limit ↔ voucher.usageLimit = some limit ∧ 0 < limit := by
  simp [Voucher.limit?]

theorem Voucher.Allows.mono {voucher : Voucher} {used used' : Nat} (h : voucher.Allows used)
    (hle : used' ≤ used) : voucher.Allows used' :=
  fun limit hlimit hpos => Nat.le_trans hle (h limit hlimit hpos)

namespace Vouchers

/-- Each code belongs to a voucher, which allows as many uses as were counted. -/
def WithinLimits (book : Vouchers) : Prop :=
  ∀ key code, book.codes.get? key = some code →
    ∃ voucher, book.vouchers.get? code.voucher = some voucher ∧ voucher.Allows code.used

variable {book book' : Vouchers} {key : CodeKey} {code : VoucherCode} {voucher : VoucherKey}
  {terms : Voucher} {limit : Nat}

theorem withinLimits_empty : WithinLimits .empty := fun _ _ h => nomatch h

/-- A code is entered under a voucher of the book, if no other code has its text. -/
theorem addCode_eq_ok {text : String} :
    book.addCode voucher text = .ok (book', key) ↔
      (book.vouchers.get? voucher).isSome ∧ book.findCode? text = none ∧
        key = book.codes.nextKey ∧
        book' = { book with
          codes := book.codes.push ⟨voucher, text, 0, true⟩
          index := book.index ++ [(text, book.codes.nextKey)] } := by
  unfold addCode
  rw [Registry.contains_eq_isSome]
  cases (book.vouchers.get? voucher).isSome <;> cases book.findCode? text <;>
    simp [and_comm, eq_comm]

namespace WithinLimits

theorem addVoucher (h : book.WithinLimits) : (book.addVoucher terms).1.WithinLimits := by
  intro key code hcode
  obtain ⟨owner, howner, hallows⟩ := h key code hcode
  refine ⟨owner, ?_, hallows⟩
  have hne : code.voucher ≠ book.vouchers.nextKey := by
    intro heq
    rw [heq, Registry.get?_nextKey] at howner
    exact nomatch howner
  rw [Vouchers.addVoucher, Registry.get?_push, if_neg hne]
  exact howner

theorem addCode {text : String} {new : CodeKey} (h : book.WithinLimits)
    (hadd : book.addCode voucher text = .ok (book', new)) : book'.WithinLimits := by
  obtain ⟨hvoucher, -, -, rfl⟩ := addCode_eq_ok.1 hadd
  intro key code hcode
  rw [Registry.get?_push] at hcode
  split at hcode
  · obtain rfl := Option.some.inj hcode
    obtain ⟨owner, howner⟩ := Option.isSome_iff_exists.1 hvoucher
    exact ⟨owner, howner, fun _ _ _ => Nat.zero_le _⟩
  · exact h key code hcode

/-- A change of a code that its voucher allows. -/
theorem withCode {f : VoucherCode → VoucherCode} (h : book.WithinLimits)
    (hf : ∀ code owner, book.codes.get? key = some code →
      book.vouchers.get? code.voucher = some owner → owner.Allows code.used →
      (f code).voucher = code.voucher ∧ owner.Allows (f code).used) :
    (book.withCode key f).WithinLimits := by
  intro other changed hchanged
  rw [Vouchers.withCode, Registry.get?_modify] at hchanged
  split at hchanged
  · obtain ⟨code, hcode, rfl⟩ := Option.map_eq_some_iff.1 hchanged
    obtain ⟨owner, howner, hallows⟩ := h key code hcode
    obtain ⟨hvoucher, hused⟩ := hf code owner hcode howner hallows
    exact ⟨owner, hvoucher ▸ howner, hused⟩
  · exact h other changed hchanged

theorem incrementUsage {used : Nat} (h : book.WithinLimits)
    (hfits : ∀ code, book.codes.get? key = some code → code.voucher = voucher)
    (hterms : book.vouchers.get? voucher = some terms)
    (hcount : book.incrementUsage key terms.limit? = .ok (book', used)) :
    book'.WithinLimits := by
  unfold Vouchers.incrementUsage at hcount
  split at hcount
  · exact nomatch hcount
  · next code hcode =>
    split at hcount
    · exact nomatch hcount
    · next hbelow =>
      obtain ⟨rfl, -⟩ := Prod.mk.inj (Except.ok.inj hcount)
      refine h.withCode fun code' owner hcode' howner _ => ⟨rfl, fun limit hlimit hpos => ?_⟩
      rw [hfits code' hcode', hterms] at howner
      obtain rfl := Option.some.inj howner
      rw [Voucher.limit?_eq_some.2 ⟨hlimit, hpos⟩, Option.any_some, decide_eq_true_eq] at hbelow
      dsimp only
      omega

theorem decrementUsage {used : Nat} (h : book.WithinLimits)
    (hcount : book.decrementUsage key = .ok (book', used)) : book'.WithinLimits := by
  unfold Vouchers.decrementUsage at hcount
  split at hcount
  · exact nomatch hcount
  · next code hcode =>
    obtain ⟨rfl, -⟩ := Prod.mk.inj (Except.ok.inj hcount)
    refine h.withCode fun code' owner hcode' _ hallows => ⟨rfl, ?_⟩
    rw [hcode] at hcode'
    obtain rfl := Option.some.inj hcode'
    exact hallows.mono (Nat.sub_le _ _)

theorem setCodeActive {active : Bool} (h : book.WithinLimits)
    (hset : book.setCodeActive key active = .ok book') : book'.WithinLimits := by
  unfold Vouchers.setCodeActive at hset
  split at hset
  · obtain rfl := Except.ok.inj hset
    exact h.withCode fun _ _ _ _ hallows => ⟨rfl, hallows⟩
  · exact nomatch hset

/-- Who has used which code does not matter. -/
theorem addCustomer {email : String} {new : Bool} (h : book.WithinLimits)
    (hadd : book.addCustomer key email = .ok (book', new)) : book'.WithinLimits := by
  unfold Vouchers.addCustomer at hadd
  split at hadd
  · exact nomatch hadd
  · split at hadd <;> obtain ⟨rfl, -⟩ := Prod.mk.inj (Except.ok.inj hadd) <;> exact h

end WithinLimits

/-! ## What requests keep -/

/-- A change that fails leaves the book as it is. -/
theorem runOn_change_induction {α : Type} {P : Vouchers → Prop}
    {f : Vouchers → Except VoucherError (Vouchers × α)} (h : P book)
    (hf : ∀ book' answer, f book = .ok (book', answer) → P book') :
    P ((change f).runOn book).2 := by
  rw [change, Step.runOn_of]
  rcases hresult : f book with _ | ⟨book', answer⟩
  · exact h
  · exact hf book' answer hresult

theorem keeps_change {α : Type} {P : Vouchers → Prop}
    {f : Vouchers → Except VoucherError (Vouchers × α)}
    (hf : ∀ book book' answer, P book → f book = .ok (book', answer) → P book') :
    Step.Keeps P (change f) :=
  fun book hbook => runOn_change_induction hbook fun book' answer => hf book book' answer hbook

theorem keeps_uncountUse : Step.Keeps WithinLimits (uncountUse terms key) :=
  .ite (keeps_change fun _ _ _ h => h.decrementUsage).discard (Step.keeps_pure _)

theorem keeps_setActive {active : Bool} : Step.Keeps WithinLimits (setActive terms key active) := by
  refine .ite (keeps_change fun book book' _ h hset => ?_) (Step.keeps_pure _)
  rcases hchanged : book.setCodeActive key active with _ | changed
  · rw [hchanged] at hset
    exact nomatch hset
  · rw [hchanged] at hset
    obtain ⟨rfl, -⟩ := Prod.mk.inj (Except.ok.inj hset)
    exact h.setCodeActive hchanged

theorem keeps_noteCustomer {email : String} {track : Bool} :
    Step.Keeps WithinLimits (noteCustomer terms key email track) := by
  refine .ite ?_ (Step.keeps_pure _)
  refine (keeps_change fun _ _ _ h => h.addCustomer).bind fun new => ?_
  exact .ite (keeps_uncountUse.bind fun _ => Step.keeps_throw _) (Step.keeps_pure _)

theorem keeps_restore : Step.Keeps WithinLimits (restore voucher key) := by
  refine Step.keeps_get_bind fun book h => ?_
  split
  · exact h
  · exact (keeps_uncountUse.bind fun _ => keeps_setActive) book h

theorem keeps_release {code : Option CodeKey} {voucher : Option VoucherKey}
    {email : Option String} : Step.Keeps WithinLimits (release code voucher email) := by
  refine Step.keeps_forM fun key => ?_
  refine (Step.keeps_forM fun voucher => keeps_restore).bind fun _ => ?_
  exact Step.keeps_forM fun email => Step.keeps_modify fun _ h => h

namespace WithinLimits

/-- A use of a code is counted only up to the limit of its voucher. -/
theorem countUse (h : book.WithinLimits)
    (hfits : ∀ code, book.codes.get? key = some code → code.voucher = voucher)
    (hterms : book.vouchers.get? voucher = some terms) :
    ((Vouchers.countUse terms key).runOn book).2.WithinLimits := by
  unfold Vouchers.countUse
  split
  · have hcounted : ((change (·.incrementUsage key terms.limit?)).runOn book).2.WithinLimits :=
      runOn_change_induction h fun _ _ => h.incrementUsage hfits hterms
    exact Step.holds_bind hcounted fun _ => Step.keeps_pure _
  · exact h

theorem redeem {email : String} {track : Bool} (h : book.WithinLimits)
    (hfits : ∀ code, book.codes.get? key = some code → code.voucher = voucher) :
    ((Vouchers.redeem voucher key email track).runOn book).2.WithinLimits := by
  unfold Vouchers.redeem
  rw [Step.runOn_get_bind]
  split
  · exact h
  · next terms hterms =>
    -- Only the count depends on whose code it is; whatever follows keeps the limits anyway.
    have hcounted := h.countUse hfits hterms
    exact Step.holds_bind hcounted fun _ => keeps_noteCustomer.bind fun _ => keeps_setActive

/-- A request keeps the limits, whether it succeeds or fails. -/
theorem serve {request : Request} (h : book.WithinLimits) (hfits : request.Fits book) :
    (request.serve.runOn book).2.WithinLimits := by
  cases request with
  | addVoucher voucher => exact h.addVoucher
  | addCode voucher text =>
    exact ((keeps_change fun _ _ _ h => h.addCode).bind fun _ => Step.keeps_pure _) book h
  | find text channel now =>
    refine (Step.keeps_get_bind fun book h => ?_) book h
    exact ((Step.keeps_answer _).bind fun _ => Step.keeps_pure _) book h
  | validate voucher total quantity email channel customer =>
    refine (Step.keeps_get_bind fun book h => ?_) book h
    exact ((Step.keeps_answer _).bind fun _ => Step.keeps_pure _) book h
  | redeem voucher key email track =>
    exact Step.holds_bind (h.redeem hfits) fun _ => Step.keeps_pure _
  | release code voucher email => exact (keeps_release.bind fun _ => Step.keeps_pure _) book h

end WithinLimits

/-- However the requests of clients follow on each other, the limits are kept. -/
theorem Served.withinLimits {Client : Type} {events : List (Event Client)}
    (h : Served events book) : book.WithinLimits := by
  induction h with
  | nil => exact withinLimits_empty
  | snoc _ _ _ fits ih => exact ih.serve fits

/-! ## Codes that are used up -/

/-- A code that is used up is refused, and the book stays as it is. -/
theorem runOn_redeem_of_le_used {email : String} {track : Bool}
    (hcode : book.codes.get? key = some code) (hterms : book.vouchers.get? voucher = some terms)
    (hlimit : terms.limit? = some limit) (hused : limit ≤ code.used) :
    (redeem voucher key email track).runOn book =
      (.error (.notApplicable .usageLimitReached), book) := by
  have hfull : ((some limit).any fun bound => min bound maxUsage ≤ code.used) = true := by
    rw [Option.any_some, decide_eq_true_eq]
    omega
  have hcount : book.incrementUsage key (some limit) =
      .error (.notApplicable .usageLimitReached) := by
    simp only [incrementUsage, hcode]
    exact if_pos hfull
  have huse : (countUse terms key).runOn book =
      (.error (.notApplicable .usageLimitReached), book) := by
    rw [countUse, hlimit]
    show ((change (·.incrementUsage key (some limit)) >>= fun _ => pure ()).runOn book) = _
    rw [Step.runOn_bind, change, Step.runOn_of, hcount]
  rw [redeem, Step.runOn_get_bind, hterms]
  dsimp only
  rw [Step.runOn_bind, huse]

/-- Whatever clients have asked for, no code of a limited voucher has been used more often than the
limit says, and a client that finds it used as often is refused. -/
theorem Served.used_le_limit {Client : Type} {events : List (Event Client)}
    (h : Served events book) (hcode : book.codes.get? key = some code) :
    ∃ terms, book.vouchers.get? code.voucher = some terms ∧
      ∀ limit, terms.usageLimit = some limit → 0 < limit →
        code.used ≤ limit ∧ (code.used = limit → ∀ email track,
          (redeem code.voucher key email track).runOn book =
            (.error (.notApplicable .usageLimitReached), book)) := by
  obtain ⟨terms, hterms, hallows⟩ := h.withinLimits key code hcode
  refine ⟨terms, hterms, fun limit hlimit hpos => ⟨hallows limit hlimit hpos, ?_⟩⟩
  intro hused email track
  exact runOn_redeem_of_le_used hcode hterms (Voucher.limit?_eq_some.2 ⟨hlimit, hpos⟩)
    (Nat.le_of_eq hused.symm)

/-- A voucher of which each code may be used twice, but once by each customer. -/
def twice : Voucher where
  name := none
  voucherType := .entireOrder
  valueType := .fixed
  usageLimit := some 2
  singleUse := false
  oncePerCustomer := true
  oncePerOrder := false
  onlyForStaff := false
  minItems := none
  start := ⟨0⟩
  finish := none
  listings := []

/-- Two clients redeem a code, one of them once more than it may. The code is used up, and a third
client is refused. -/
theorem used_le_limit_of_two_clients : ∃ (events : List (Event String)) (book : Vouchers)
    (code : VoucherCode),
    Served events book ∧ book.codes.get? ⟨1⟩ = some code ∧ code.used = 2 ∧
    (redeem code.voucher ⟨1⟩ "c@x" true).runOn book =
      (.error (.notApplicable .usageLimitReached), book) := by
  have hfits {code : VoucherCode} {used : Nat}
      (h : some (VoucherCode.mk ⟨1⟩ "TWICE" used true) = some code) : code.voucher = ⟨1⟩ :=
    Option.some.inj h ▸ rfl
  have hopened : Served [_, _] _ :=
    (Served.nil.snoc "shop" (.addVoucher twice) trivial).snoc "shop" (.addCode ⟨1⟩ "TWICE") trivial
  have hfirst := hopened.snoc "a" (.redeem ⟨1⟩ ⟨1⟩ "a@x" true) fun _ => hfits
  have hagain := hfirst.snoc "a" (.redeem ⟨1⟩ ⟨1⟩ "a@x" true) fun _ => hfits
  have hsecond := hagain.snoc "b" (.redeem ⟨1⟩ ⟨1⟩ "b@x" true) fun _ => hfits
  have hcode := @Served.used_le_limit _ ⟨1⟩ ⟨⟨1⟩, "TWICE", 2, true⟩ _ _ hsecond rfl
  obtain ⟨terms, hterms, hlimits⟩ := hcode
  obtain rfl : twice = terms := Option.some.inj hterms
  obtain ⟨-, hrefused⟩ := hlimits 2 rfl (by decide)
  exact ⟨_, _, _, hsecond, rfl, rfl, hrefused rfl "c@x" true⟩

end Vouchers

end Retail
