import Retail.Proofs.Failure
import Retail.Proofs.Key
import Retail.Proofs.Voucher.Usage

/-!
# What a redemption does

Redeeming a code changes the book in up to three places, each of which may be refused, and so does
releasing it. Either all of the changes are made or none: what was counted for a customer who is
refused is taken back.

## Main definitions

* `VoucherCode.redeemed`, `VoucherCode.released`: a code after a use, and after a use was taken back
* `Vouchers.Accepts`: a book that redeems a code

## Main results

* `Vouchers.redeem_eq_ok`, `Vouchers.eq_of_redeem_eq_error`: redeeming a code
* `Vouchers.release_eq_ok`, `Vouchers.eq_of_release_eq_error`: releasing a code
-/

namespace Retail

/-! ## Codes -/

namespace VoucherCode

/-- The code with one use more, where uses are limited. -/
def counted (terms : Voucher) (code : VoucherCode) : VoucherCode :=
  { code with used := if terms.limit?.isSome then code.used + 1 else code.used }

/-- The code with one use less, where uses are limited. -/
def uncounted (terms : Voucher) (code : VoucherCode) : VoucherCode :=
  { code with used := if terms.limit?.isSome then code.used - 1 else code.used }

/-- The code closed or opened, if it is for a single use. -/
def switched (terms : Voucher) (active : Bool) (code : VoucherCode) : VoucherCode :=
  { code with isActive := if terms.singleUse then active else code.isActive }

/-- The code after a use. -/
def redeemed (terms : Voucher) (code : VoucherCode) : VoucherCode :=
  (code.counted terms).switched terms false

/-- The code after a use was taken back. -/
def released (terms : Voucher) (code : VoucherCode) : VoucherCode :=
  (code.uncounted terms).switched terms true

variable {terms : Voucher} {code : VoucherCode}

theorem counted_of_eq_none (h : terms.limit? = none) : code.counted terms = code := by
  rw [counted, h]
  rfl

theorem uncounted_of_eq_none (h : terms.limit? = none) : code.uncounted terms = code := by
  rw [uncounted, h]
  rfl

theorem uncounted_counted : (code.counted terms).uncounted terms = code := by
  cases h : terms.limit? with
  | none => rw [uncounted_of_eq_none h, counted_of_eq_none h]
  | some limit => simp [counted, uncounted, h]

theorem switched_of_eq_false {active : Bool} (h : terms.singleUse = false) :
    code.switched terms active = code := by
  rw [switched, h]
  rfl

end VoucherCode

namespace Vouchers

variable {book book' : Vouchers} {key : CodeKey} {code : VoucherCode} {voucher : VoucherKey}
  {terms : Voucher} {email : String} {track : Bool} {e : VoucherError} {u : Unit}

/-! ## Changes -/

section Change

variable {α : Type} {f : Vouchers → Except VoucherError (Vouchers × α)} {answer : α}

theorem change_eq_ok :
    (change f).runOn book = (.ok answer, book') ↔ f book = .ok (book', answer) := by
  rw [change, Step.runOn_of]
  rcases f book with _ | ⟨_, _⟩
  · simp
  · simp [and_comm]

theorem change_eq_error :
    (change f).runOn book = (.error e, book') ↔ f book = .error e ∧ book' = book := by
  rw [change, Step.runOn_of]
  rcases f book with _ | ⟨_, _⟩
  · simp [eq_comm]
  · simp

end Change

/-- Changes that come to the same for the code. -/
theorem withCode_congr {f g : VoucherCode → VoucherCode}
    (h : ∀ code, book.codes.get? key = some code → f code = g code) :
    book.withCode key f = book.withCode key g := by
  rw [withCode, withCode, Registry.modify_congr h]

theorem withCode_of_eq_some {f g : VoucherCode → VoucherCode}
    (hcode : book.codes.get? key = some code) (h : f code = g code) :
    book.withCode key f = book.withCode key g := by
  refine withCode_congr fun other hother => ?_
  obtain rfl := Option.some.inj (hcode.symm.trans hother)
  exact h

theorem withCode_eq_self {f : VoucherCode → VoucherCode}
    (h : ∀ code, book.codes.get? key = some code → f code = code) : book.withCode key f = book := by
  rw [withCode, Registry.modify_eq_self h]

theorem withCode_of_eq_none {f : VoucherCode → VoucherCode} (h : book.codes.get? key = none) :
    book.withCode key f = book :=
  withCode_eq_self fun code hcode => by simp [h] at hcode

theorem withCode_withCode {f g : VoucherCode → VoucherCode} :
    (book.withCode key f).withCode key g = book.withCode key (g ∘ f) := by
  rw [withCode, withCode, withCode, Registry.modify_modify]

theorem get?_withCode {f : VoucherCode → VoucherCode} :
    (book.withCode key f).codes.get? key = (book.codes.get? key).map f := by
  rw [withCode, Registry.get?_modify, if_pos rfl]

theorem isSome_get?_withCode {f : VoucherCode → VoucherCode} :
    ((book.withCode key f).codes.get? key).isSome = (book.codes.get? key).isSome := by
  rw [get?_withCode, Option.isSome_map]

theorem get?_withCode_eq_none {f : VoucherCode → VoucherCode} :
    (book.withCode key f).codes.get? key = none ↔ book.codes.get? key = none := by
  rw [get?_withCode, Option.map_eq_none_iff]

/-! ## Parts of a request -/

theorem incrementUsage_eq_ok {limit used : Nat} :
    book.incrementUsage key (some limit) = .ok (book', used) ↔
      ∃ code, book.codes.get? key = some code ∧ code.used < min limit maxUsage ∧
        used = code.used + 1 ∧ book' = book.withCode key ({ · with used := code.used + 1 }) := by
  unfold incrementUsage
  cases book.codes.get? key with
  | none => simp
  | some code =>
    simp only [Option.any_some, decide_eq_true_eq, Option.some.injEq, exists_eq_left']
    by_cases hfull : min limit maxUsage ≤ code.used
    · rw [if_pos hfull]
      simp [Nat.not_lt.2 hfull]
    · have hused : min (code.used + 1) maxUsage = code.used + 1 := by omega
      rw [if_neg hfull, hused]
      simp [Nat.not_le.1 hfull, eq_comm, and_comm]

theorem decrementUsage_eq_ok {used : Nat} :
    book.decrementUsage key = .ok (book', used) ↔
      ∃ code, book.codes.get? key = some code ∧ used = code.used - 1 ∧
        book' = book.withCode key ({ · with used := code.used - 1 }) := by
  unfold decrementUsage
  cases book.codes.get? key with
  | none => simp
  | some code => simp [eq_comm, and_comm]

/-- A use is counted if there is room for it. -/
theorem countUse_eq_ok :
    (countUse terms key).runOn book = (.ok u, book') ↔
      (∀ limit, terms.limit? = some limit →
        ∃ code, book.codes.get? key = some code ∧ code.used < min limit maxUsage) ∧
      book' = book.withCode key (·.counted terms) := by
  cases hlimit : terms.limit? with
  | none =>
    rw [withCode_eq_self fun code _ => VoucherCode.counted_of_eq_none hlimit]
    simp [countUse, hlimit, eq_comm]
  | some limit =>
    have hcounted : ∀ code, book.codes.get? key = some code →
        book.withCode key ({ · with used := code.used + 1 }) =
          book.withCode key (·.counted terms) := fun code hcode =>
      withCode_of_eq_some hcode (by simp [VoucherCode.counted, hlimit])
    have hchange : (countUse terms key).runOn book =
        (discard (change (·.incrementUsage key (some limit)))).runOn book := by
      rw [countUse, hlimit]
      rfl
    simp only [hchange, Step.runOn_discard_eq_ok, change_eq_ok, incrementUsage_eq_ok,
      Option.some.injEq, forall_eq']
    constructor
    · rintro ⟨_, code, hcode, hroom, -, rfl⟩
      exact ⟨⟨code, hcode, hroom⟩, hcounted code hcode⟩
    · rintro ⟨⟨code, hcode, hroom⟩, rfl⟩
      exact ⟨_, code, hcode, hroom, rfl, (hcounted code hcode).symm⟩

theorem eq_of_countUse_eq_error (h : (countUse terms key).runOn book = (.error e, book')) :
    book' = book := by
  unfold countUse at h
  split at h
  · exact (change_eq_error.1 (Step.runOn_bind_pure_eq_error.1 h)).2
  · exact nomatch h

/-- A use is taken back from a code that is there, where uses are counted. -/
theorem uncountUse_eq_ok :
    (uncountUse terms key).runOn book = (.ok u, book') ↔
      (terms.limit?.isSome → (book.codes.get? key).isSome) ∧
      book' = book.withCode key (·.uncounted terms) := by
  cases hlimit : terms.limit? with
  | none =>
    rw [withCode_eq_self fun code _ => VoucherCode.uncounted_of_eq_none hlimit, uncountUse, hlimit]
    simp [eq_comm (a := book')]
  | some limit =>
    have hchange : (uncountUse terms key).runOn book =
        (discard (change (·.decrementUsage key))).runOn book := by
      rw [uncountUse, hlimit]
      rfl
    simp only [hchange, Step.runOn_discard_eq_ok, change_eq_ok, decrementUsage_eq_ok,
      Option.isSome_some, true_implies]
    have huncounted : ∀ code, book.codes.get? key = some code →
        book.withCode key ({ · with used := code.used - 1 }) =
          book.withCode key (·.uncounted terms) := fun code hcode =>
      withCode_of_eq_some hcode (by simp [VoucherCode.uncounted, hlimit])
    constructor
    · rintro ⟨_, code, hcode, -, rfl⟩
      exact ⟨Option.isSome_iff_exists.2 ⟨code, hcode⟩, huncounted code hcode⟩
    · rintro ⟨hcode, rfl⟩
      obtain ⟨code, hcode⟩ := Option.isSome_iff_exists.1 hcode
      exact ⟨_, code, hcode, rfl, (huncounted code hcode).symm⟩

theorem eq_of_uncountUse_eq_error (h : (uncountUse terms key).runOn book = (.error e, book')) :
    book' = book := by
  unfold uncountUse at h
  split at h
  · exact (change_eq_error.1 (Step.runOn_bind_pure_eq_error.1 h)).2
  · exact nomatch h

theorem setActive_eq_ok {active : Bool} :
    (setActive terms key active).runOn book = (.ok u, book') ↔
      (terms.singleUse → (book.codes.get? key).isSome) ∧
      book' = book.withCode key (·.switched terms active) := by
  cases hsingle : terms.singleUse with
  | false =>
    rw [withCode_eq_self fun code _ => VoucherCode.switched_of_eq_false hsingle, setActive, hsingle]
    simp [eq_comm (a := book')]
  | true =>
    have hswitched : book.withCode key ({ · with isActive := active }) =
        book.withCode key (·.switched terms active) :=
      withCode_congr fun code _ => by simp [VoucherCode.switched, hsingle]
    rw [setActive, hsingle, if_pos rfl, change_eq_ok, setCodeActive, Registry.contains_eq_isSome,
      hswitched]
    cases (book.codes.get? key).isSome <;> simp [Except.map, eq_comm]

/-- A code that cannot be switched is not there. -/
theorem setActive_eq_error {active : Bool}
    (h : (setActive terms key active).runOn book = (.error e, book')) :
    terms.singleUse ∧ book.codes.get? key = none ∧ book' = book := by
  unfold setActive at h
  split at h
  · next hsingle =>
    obtain ⟨hset, rfl⟩ := change_eq_error.1 h
    refine ⟨hsingle, ?_, rfl⟩
    rw [setCodeActive, Registry.contains_eq_isSome] at hset
    cases hcode : book'.codes.get? key with
    | none => rfl
    | some code => simp [hcode, Except.map] at hset
  · exact nomatch h

theorem addCustomer_eq_ok {new : Bool} :
    book.addCustomer key email = .ok (book', new) ↔
      (book.codes.get? key).isSome ∧
        if (key, email) ∈ book.customers then new = false ∧ book' = book
        else new = true ∧ book' = { book with customers := book.customers ++ [(key, email)] } := by
  unfold addCustomer
  rw [Registry.contains_eq_isSome]
  cases (book.codes.get? key).isSome with
  | false => simp
  | true =>
    by_cases hknown : (key, email) ∈ book.customers
    · simp [hknown, eq_comm, and_comm]
    · simp [hknown, eq_comm, and_comm]

theorem addCustomer_eq_error (h : book.addCustomer key email = .error e) :
    book.codes.get? key = none := by
  unfold addCustomer at h
  rw [Registry.contains_eq_isSome] at h
  cases hcode : book.codes.get? key with
  | none => rfl
  | some code =>
    rw [hcode] at h
    split at h
    · next hmissing => exact nomatch hmissing
    · split at h <;> exact nomatch h

/-- A customer is noted who has not used the code, where that matters. -/
theorem noteCustomer_eq_ok :
    (noteCustomer terms key email track).runOn book = (.ok u, book') ↔
      if terms.oncePerCustomer && track then
        (book.codes.get? key).isSome ∧ (key, email) ∉ book.customers ∧
          book' = { book with customers := book.customers ++ [(key, email)] }
      else book' = book := by
  unfold noteCustomer
  cases terms.oncePerCustomer && track with
  | false => simp [eq_comm]
  | true =>
    simp only [if_true, Step.runOn_bind_eq_ok, change_eq_ok, addCustomer_eq_ok]
    by_cases hknown : (key, email) ∈ book.customers
    · simp only [hknown, if_true]
      constructor
      · rintro ⟨_, middle, ⟨-, rfl, rfl⟩, hundone⟩
        rw [Bool.not_false, if_pos rfl, Step.runOn_bind_eq_ok] at hundone
        obtain ⟨_, _, -, hthrow⟩ := hundone
        exact nomatch hthrow
      · exact fun h => absurd trivial h.2.1
    · simp only [hknown, if_false, not_false_eq_true, true_and]
      constructor
      · rintro ⟨_, _, ⟨hcode, rfl, rfl⟩, hdone⟩
        obtain ⟨-, rfl⟩ := Prod.mk.inj hdone
        exact ⟨hcode, rfl⟩
      · rintro ⟨hcode, rfl⟩
        exact ⟨true, _, ⟨hcode, rfl, rfl⟩, rfl⟩

/-- A customer is refused for a code that is not there, or for a use that was noted before; then the
use counted for this one is taken back. -/
theorem noteCustomer_eq_error
    (h : (noteCustomer terms key email track).runOn book = (.error e, book')) :
    (terms.oncePerCustomer && track) = true ∧
      (book.codes.get? key = none ∧ book' = book ∨
        (book.codes.get? key).isSome ∧ (key, email) ∈ book.customers ∧
          book' = book.withCode key (·.uncounted terms)) := by
  unfold noteCustomer at h
  split at h
  · next htrack =>
    refine ⟨htrack, ?_⟩
    rcases Step.runOn_bind_eq_error.1 h with hadd | ⟨new, middle, hadd, hrest⟩
    · obtain ⟨hadd, rfl⟩ := change_eq_error.1 hadd
      exact .inl ⟨addCustomer_eq_error hadd, rfl⟩
    · obtain ⟨hcode, hadded⟩ := addCustomer_eq_ok.1 (change_eq_ok.1 hadd)
      split at hadded
      · next hknown =>
        obtain ⟨rfl, rfl⟩ := hadded
        refine .inr ⟨hcode, hknown, ?_⟩
        rcases Step.runOn_bind_eq_error.1 hrest with hundo | ⟨_, undone, hundo, hthrow⟩
        · -- The use is taken back from a code that is there, which cannot fail.
          have hdone : (uncountUse terms key).runOn middle = (.ok (), _) :=
            uncountUse_eq_ok.2 ⟨fun _ => hcode, rfl⟩
          rw [hundo] at hdone
          exact nomatch hdone
        · obtain ⟨-, rfl⟩ := Prod.mk.inj hthrow
          exact (uncountUse_eq_ok.1 hundo).2
      · obtain ⟨rfl, rfl⟩ := hadded
        exact nomatch hrest
  · exact nomatch h

/-! ## Redeeming -/

/-- The book after a use of a code by a customer. -/
def redeemed (book : Vouchers) (terms : Voucher) (key : CodeKey) (email : String) (track : Bool) :
    Vouchers :=
  { book with
    codes := book.codes.modify key (·.redeemed terms)
    customers := if terms.oncePerCustomer && track then book.customers ++ [(key, email)]
      else book.customers }

/-- The book redeems a code for a customer: a use more is within the limit, and the customer has not
used the code, as far as the voucher asks for it. Only then it matters that there is such a code. -/
structure Accepts (book : Vouchers) (terms : Voucher) (key : CodeKey) (email : String)
    (track : Bool) : Prop where
  room : ∀ limit, terms.limit? = some limit →
    ∃ code, book.codes.get? key = some code ∧ code.used < min limit maxUsage
  customer : (terms.oncePerCustomer && track) = true →
    (book.codes.get? key).isSome ∧ (key, email) ∉ book.customers
  code : terms.singleUse → (book.codes.get? key).isSome

/-- A code is redeemed exactly where the book accepts that. Whether the code is closed does not
matter. -/
theorem redeem_eq_ok :
    (redeem voucher key email track).runOn book = (.ok u, book') ↔
      ∃ terms, book.vouchers.get? voucher = some terms ∧ book.Accepts terms key email track ∧
        book' = book.redeemed terms key email track := by
  unfold redeem
  rw [Step.runOn_get_bind]
  cases hterms : book.vouchers.get? voucher with
  | none => simp
  | some terms =>
    -- The use is counted, the customer noted and the code closed, in this order. None of it hides
    -- the code from what comes next, so all conditions are about the book before.
    simp only [Step.runOn_bind_eq_ok, countUse_eq_ok, noteCustomer_eq_ok, setActive_eq_ok,
      Option.some.injEq, exists_eq_left']
    constructor
    · rintro ⟨_, counted, ⟨hroom, rfl⟩, _, noted, hnoted, hcode, rfl⟩
      split at hnoted
      · next htrack =>
        obtain ⟨hthere, hnew, rfl⟩ := hnoted
        rw [isSome_get?_withCode] at hthere
        refine ⟨⟨hroom, fun _ => ⟨hthere, hnew⟩, fun _ => hthere⟩, ?_⟩
        simp [redeemed, withCode, htrack, Registry.modify_modify, Function.comp_def,
          VoucherCode.redeemed]
      · next htrack =>
        obtain rfl := hnoted
        rw [isSome_get?_withCode] at hcode
        refine ⟨⟨hroom, fun h => absurd h htrack, hcode⟩, ?_⟩
        simp [redeemed, withCode, htrack, Registry.modify_modify, Function.comp_def,
          VoucherCode.redeemed]
    · rintro ⟨haccepts, rfl⟩
      refine ⟨⟨⟩, _, ⟨haccepts.room, rfl⟩, ⟨⟩,
        { book.withCode key (·.counted terms) with
          customers := if terms.oncePerCustomer && track then book.customers ++ [(key, email)]
            else book.customers }, ?_, ?_, ?_⟩
      · split
        · next htrack =>
          obtain ⟨hthere, hnew⟩ := haccepts.customer htrack
          exact ⟨isSome_get?_withCode.trans hthere, hnew, rfl⟩
        · rfl
      · exact fun hsingle => isSome_get?_withCode.trans (haccepts.code hsingle)
      · simp [redeemed, withCode, Registry.modify_modify, Function.comp_def, VoucherCode.redeemed]

/-- A code that is not redeemed leaves the book as it was, also where the use was counted before the
customer was refused. -/
theorem eq_of_redeem_eq_error
    (h : (redeem voucher key email track).runOn book = (.error e, book')) : book' = book := by
  unfold redeem at h
  rw [Step.runOn_get_bind] at h
  split at h
  · exact (Prod.mk.inj h).2.symm
  · next terms hterms =>
    have hnothing (hmissing : (book.withCode key (·.counted terms)).codes.get? key = none) :
        book.withCode key (·.counted terms) = book :=
      withCode_of_eq_none (get?_withCode_eq_none.1 hmissing)
    rcases Step.runOn_bind_eq_error.1 h with hcount | ⟨_, counted, hcount, hrest⟩
    · exact eq_of_countUse_eq_error hcount
    obtain ⟨-, rfl⟩ := countUse_eq_ok.1 hcount
    rcases Step.runOn_bind_eq_error.1 hrest with hnote | ⟨_, noted, hnote, hset⟩
    · rcases (noteCustomer_eq_error hnote).2 with ⟨hmissing, rfl⟩ | ⟨-, -, rfl⟩
      · exact hnothing hmissing
      · rw [withCode_withCode]
        exact withCode_eq_self fun code _ => VoucherCode.uncounted_counted
    · obtain ⟨-, hmissing, rfl⟩ := setActive_eq_error hset
      have hnoted := noteCustomer_eq_ok.1 hnote
      split at hnoted
      · obtain ⟨hthere, -, rfl⟩ := hnoted
        rw [hmissing] at hthere
        exact nomatch hthere
      · obtain rfl := hnoted
        exact hnothing hmissing

/-! ## Releasing -/

/-- The book after a use of a code was taken back, by the terms of the voucher if one was named and
for the customer if one was named. -/
def released (book : Vouchers) (key : CodeKey) (terms : Option Voucher) (email : Option String) :
    Vouchers :=
  { book with
    codes := book.codes.modify key fun code => terms.elim code code.released
    customers := book.customers.filter fun row => email.all fun email => row != (key, email) }

theorem restore_eq_ok :
    (restore voucher key).runOn book = (.ok u, book') ↔
      ∃ terms, book.vouchers.get? voucher = some terms ∧
        (terms.limit?.isSome ∨ terms.singleUse → (book.codes.get? key).isSome) ∧
        book' = book.withCode key (·.released terms) := by
  unfold restore
  rw [Step.runOn_get_bind]
  cases book.vouchers.get? voucher with
  | none => simp
  | some terms =>
    simp only [Step.runOn_bind_eq_ok, uncountUse_eq_ok, setActive_eq_ok, Option.some.injEq,
      exists_eq_left', or_imp]
    constructor
    · rintro ⟨_, _, ⟨hcounted, rfl⟩, hsingle, rfl⟩
      rw [isSome_get?_withCode] at hsingle
      exact ⟨⟨hcounted, hsingle⟩, withCode_withCode⟩
    · rintro ⟨⟨hcounted, hsingle⟩, rfl⟩
      refine ⟨⟨⟩, _, ⟨hcounted, rfl⟩, ?_, withCode_withCode.symm⟩
      exact fun h => isSome_get?_withCode.trans (hsingle h)

theorem eq_of_restore_eq_error (h : (restore voucher key).runOn book = (.error e, book')) :
    book' = book := by
  unfold restore at h
  rw [Step.runOn_get_bind] at h
  split at h
  · exact (Prod.mk.inj h).2.symm
  · rcases Step.runOn_bind_eq_error.1 h with huncount | ⟨_, uncounted, huncount, hset⟩
    · exact eq_of_uncountUse_eq_error huncount
    · obtain ⟨-, rfl⟩ := uncountUse_eq_ok.1 huncount
      obtain ⟨-, hmissing, rfl⟩ := setActive_eq_error hset
      exact withCode_of_eq_none (get?_withCode_eq_none.1 hmissing)

/-- Forgetting a customer cannot fail. -/
theorem runOn_forget (key : CodeKey) (email : Option String) :
    (email.forM fun email => modify fun book => (book.removeCustomer key email).1 :
        Step Vouchers VoucherError PUnit).runOn book =
      (.ok ⟨⟩, { book with
        customers := book.customers.filter fun row => email.all fun email =>
          row != (key, email) }) := by
  cases email with
  | none => simp [Option.forM]
  | some email => rfl

/-- A code is released where the voucher that is named is there, and the code where that voucher
limits uses or is for a single one. -/
theorem release_eq_ok {voucher : Option VoucherKey} {email : Option String} :
    (release (some key) voucher email).runOn book = (.ok u, book') ↔
      ∃ terms, voucher.map book.vouchers.get? = terms.map some ∧
        (∀ named ∈ terms, named.limit?.isSome ∨ named.singleUse → (book.codes.get? key).isSome) ∧
        book' = book.released key terms email := by
  have hrelease : (release (some key) voucher email).runOn book =
      ((voucher.forM fun voucher => restore voucher key) >>= fun _ =>
        email.forM fun email => modify fun book => (book.removeCustomer key email).1).runOn book :=
    rfl
  simp only [hrelease, Step.runOn_bind_eq_ok, runOn_forget, Prod.mk.injEq, true_and]
  cases voucher with
  | none =>
    have hkept : book.codes.modify key
        (fun code => (none : Option Voucher).elim code code.released) = book.codes :=
      Registry.modify_eq_self fun _ _ => rfl
    constructor
    · rintro ⟨_, _, hpure, rfl⟩
      obtain ⟨-, rfl⟩ := Prod.mk.inj hpure
      exact ⟨none, rfl, fun _ hnamed => absurd hnamed (Option.not_mem_none _),
        by rw [released, hkept]⟩
    · rintro ⟨terms, hterms, -, rfl⟩
      obtain rfl : terms = none := by simpa using hterms.symm
      exact ⟨⟨⟩, book, rfl, by rw [released, hkept]⟩
  | some voucher =>
    simp only [Option.forM, restore_eq_ok]
    constructor
    · rintro ⟨_, _, ⟨terms, hterms, hcode, rfl⟩, rfl⟩
      refine ⟨some terms, by simp [hterms], fun named hnamed => ?_, rfl⟩
      obtain rfl := Option.some.inj hnamed
      exact hcode
    · rintro ⟨_ | terms, hterms, hcode, rfl⟩
      · exact nomatch hterms
      · exact ⟨⟨⟩, _, ⟨terms, by simpa using hterms, hcode terms rfl, rfl⟩, rfl⟩

theorem eq_of_release_eq_error {code : Option CodeKey} {voucher : Option VoucherKey}
    {email : Option String}
    (h : (release code voucher email).runOn book = (.error e, book')) : book' = book := by
  cases code with
  | none => exact nomatch h
  | some key =>
    rcases Step.runOn_bind_eq_error.1 h with hrestore | ⟨_, middle, -, hforget⟩
    · cases voucher with
      | none => exact nomatch hrestore
      | some voucher => exact eq_of_restore_eq_error hrestore
    · cases email <;> exact nomatch hforget

end Vouchers

end Retail
