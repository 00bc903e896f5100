import Retail.Proofs.Discount.Value
import Retail.Proofs.Failure
import Retail.Proofs.Line.Redistribution
import Retail.Proofs.Promotion.Offer

/-!
# Failures of arithmetic

A calculation whose amounts are all in one currency fails at most because a number is too large, or
because a percentage has no value. How a calculation made of parts fails is known from how its parts
do.

## Main definitions

* `FailsOnly`, `Step.FailsOnly`: a result, or a step, whose failures are all of a kind
* `PricingError.IsArithmetic`: a number is too large or a percentage has no value

## Main results

* `FailsOnly.bind`, `Step.FailsOnly.bind` and their like: the parts
* `failsOnly_discountedPrice`, `Money.failsOnly_share`, `failsOnly_redistribute`: amounts in one
  currency
-/

namespace Retail

/-! ## Results -/

section Results

variable {ε ε' α β : Type} {P : ε → Prop} {x : Except ε α}

/-- Every failure is of a kind. -/
def FailsOnly (P : ε → Prop) (x : Except ε α) : Prop := ∀ e, x = .error e → P e

theorem failsOnly_ok {a : α} : FailsOnly P (.ok a) := fun _ h => nomatch h

theorem failsOnly_pure {a : α} : FailsOnly P (pure a) := failsOnly_ok

theorem failsOnly_error {e : ε} (h : P e) : FailsOnly P (.error e : Except ε α) := by
  rintro _ ⟨⟩
  exact h

theorem failsOnly_of_eq_ok {a : α} (h : x = .ok a) : FailsOnly P x := h ▸ failsOnly_ok

/-- After the first part has succeeded, the second one may fail. -/
theorem FailsOnly.bind {f : α → Except ε β} (hx : FailsOnly P x)
    (hf : ∀ a, x = .ok a → FailsOnly P (f a)) : FailsOnly P (x >>= f) := by
  cases h : x with
  | error e => exact failsOnly_error (hx e h)
  | ok a => exact hf a h

theorem FailsOnly.map {f : α → β} (hx : FailsOnly P x) : FailsOnly P (x >>= fun a => pure (f a)) :=
  hx.bind fun _ _ => failsOnly_pure

theorem FailsOnly.mapError {Q : ε' → Prop} {rename : ε → ε'} (hx : FailsOnly P x)
    (h : ∀ e, P e → Q (rename e)) : FailsOnly Q (x.mapError rename) := by
  intro e' he'
  obtain ⟨e, he, rfl⟩ := mapError_eq_error.1 he'
  exact h e (hx e he)

theorem failsOnly_elim {o : Option α} {e : ε} {f : α → Except ε β} (he : P e)
    (hf : ∀ a, o = some a → FailsOnly P (f a)) : FailsOnly P (o.elim (.error e) f) := by
  cases o with
  | none => exact failsOnly_error he
  | some a => exact hf a rfl

theorem failsOnly_mapM {f : α → Except ε β} {xs : List α} (h : ∀ x ∈ xs, FailsOnly P (f x)) :
    FailsOnly P (xs.mapM f) := by
  induction xs with
  | nil => exact failsOnly_pure
  | cons x rest ih =>
    rw [List.forall_mem_cons] at h
    rw [List.mapM_cons]
    exact h.1.bind fun _ _ => (ih h.2).map

theorem failsOnly_optionMapM {f : α → Except ε β} {o : Option α} (h : ∀ a ∈ o, FailsOnly P (f a)) :
    FailsOnly P (o.mapM f) := by
  cases o with
  | none => exact failsOnly_pure
  | some a =>
    rw [Option.mapM_some, map_eq_pure_bind]
    exact (h a rfl).map

end Results

/-! ## Steps -/

namespace Step

variable {σ τ ε ε' α β : Type} {P : ε → Prop} {s : σ}

/-- Every failure of the step on the state is of a kind. -/
def FailsOnly (P : ε → Prop) (step : Step σ ε α) (s : σ) : Prop :=
  ∀ e t, step.runOn s = (.error e, t) → P e

theorem failsOnly_of_runOn {step : Step σ ε α} {a : α} {t : σ} (h : step.runOn s = (.ok a, t)) :
    FailsOnly P step s := by
  intro e t' h'
  rw [h] at h'
  exact nomatch h'

theorem failsOnly_pure {a : α} : FailsOnly P (pure a : Step σ ε α) s := failsOnly_of_runOn rfl

theorem failsOnly_answer {result : Except ε α} (h : Retail.FailsOnly P result) :
    FailsOnly P (answer result) s := fun e _ he => h e (Prod.mk.inj he).1

theorem failsOnly_of {f : σ → Except ε α × σ} (h : Retail.FailsOnly P (f s).1) :
    FailsOnly P (of f) s := fun e _ he => h e (congrArg Prod.fst he)

/-- After the first step has succeeded, the second one may fail on what it left. -/
theorem FailsOnly.bind {step : Step σ ε α} {next : α → Step σ ε β} (hstep : FailsOnly P step s)
    (hnext : ∀ a t, step.runOn s = (.ok a, t) → FailsOnly P (next a) t) :
    FailsOnly P (step >>= next) s := by
  intro e t h
  rcases runOn_bind_eq_error.1 h with hfirst | ⟨a, m, hfirst, hsecond⟩
  · exact hstep e t hfirst
  · exact hnext a m hfirst e t hsecond

theorem failsOnly_answer_bind {result : Except ε α} {next : α → Step σ ε β}
    (h : Retail.FailsOnly P result) (hnext : ∀ a, result = .ok a → FailsOnly P (next a) s) :
    FailsOnly P (answer result >>= next) s := by
  refine (failsOnly_answer h).bind fun a t ha => ?_
  obtain ⟨hresult, rfl⟩ := Prod.mk.inj ha
  exact hnext a hresult

theorem failsOnly_get_bind {next : σ → Step σ ε β} (h : FailsOnly P (next s) s) :
    FailsOnly P ((get : Step σ ε σ) >>= next) s := by
  intro e t he
  rw [runOn_get_bind] at he
  exact h e t he

theorem failsOnly_modify_bind {f : σ → σ} {next : PUnit → Step σ ε β}
    (h : FailsOnly P (next ⟨⟩) (f s)) :
    FailsOnly P ((modify f : Step σ ε PUnit) >>= next) s := by
  intro e t he
  rw [runOn_modify_bind] at he
  exact h e t he

theorem FailsOnly.discard {step : Step σ ε α} (h : FailsOnly P step s) :
    FailsOnly P (discard step) s :=
  h.bind fun _ _ _ => failsOnly_pure

theorem FailsOnly.mapError {Q : ε' → Prop} {rename : ε → ε'} {step : Step σ ε α}
    (hstep : FailsOnly P step s) (h : ∀ e, P e → Q (rename e)) :
    FailsOnly Q (step.mapError rename) s := by
  intro e' t he'
  obtain ⟨e, he, rfl⟩ := runOn_mapError_eq_error.1 he'
  exact h e (hstep e t he)

theorem failsOnly_on {get : τ → σ} {set : σ → τ → τ} {step : Step σ ε α} {w : τ}
    (h : FailsOnly P step (get w)) : FailsOnly P (step.on get set) w := by
  intro e w' he
  obtain ⟨part, he, -⟩ := runOn_on_eq_error.1 he
  exact h e part he

theorem failsOnly_onEach {step : Step σ ε α} {xs : List σ} (h : ∀ x ∈ xs, FailsOnly P step x) :
    FailsOnly P (onEach step) xs := by
  intro e xs' he
  obtain ⟨before, x, after, _, x', rfl, -, hx, -⟩ := runOn_onEach_eq_error.1 he
  exact h x (List.mem_append_right _ List.mem_cons_self) e x' hx

end Step

/-! ## Amounts -/

/-- A number is too large, or a percentage has no value. -/
def PricingError.IsArithmetic : PricingError → Prop
  | .overflow => True
  | .currencyMismatch _ _ => False
  | .percentConversion => True

theorem failsOnly_roundMinor (d : Decimal) :
    FailsOnly PricingError.IsArithmetic (roundMinor d) := by
  unfold roundMinor
  dsimp only
  split
  · exact failsOnly_ok
  · exact failsOnly_error trivial

namespace Money

variable {ε : Type} {P : PricingError → Prop} {a b : Money}

theorem failsOnly_sameCurrency (h : a.currency = b.currency) : FailsOnly P (sameCurrency a b) :=
  failsOnly_of_eq_ok (a := ()) (sameCurrency_eq_ok.2 h)

theorem failsOnly_add (h : a.currency = b.currency) : FailsOnly P (a.add b) :=
  failsOnly_of_eq_ok (add_eq_ok.2 ⟨h, rfl⟩)

theorem failsOnly_sub (h : a.currency = b.currency) : FailsOnly P (a.sub b) :=
  failsOnly_of_eq_ok (sub_eq_ok.2 ⟨h, rfl⟩)

theorem failsOnly_total {currency : Currency} {amounts : List Money}
    (h : ∀ amount ∈ amounts, amount.currency = currency) :
    FailsOnly P (total currency amounts) :=
  failsOnly_of_eq_ok (total_eq_ok.2 ⟨h, rfl⟩)

theorem failsOnly_times (price : Money) (quantity : Nat) :
    FailsOnly PricingError.IsArithmetic (price.times quantity) := by
  unfold times
  dsimp only
  split
  · exact failsOnly_ok
  · exact failsOnly_error trivial

theorem failsOnly_divide (price : Money) (quantity : Nat) :
    FailsOnly PricingError.IsArithmetic (price.divide quantity) := by
  unfold divide
  split
  · exact failsOnly_ok
  · exact (failsOnly_elim trivial fun d _ => failsOnly_roundMinor d).map

theorem failsOnly_share {amount part whole : Money} (hpart : amount.currency = part.currency)
    (hwhole : amount.currency = whole.currency) :
    FailsOnly PricingError.IsArithmetic (amount.share part whole) := by
  unfold share
  refine (failsOnly_sameCurrency hpart).bind fun _ _ => ?_
  refine (failsOnly_sameCurrency hwhole).bind fun _ _ => ?_
  split
  · exact failsOnly_pure
  · exact (failsOnly_elim trivial fun d _ => failsOnly_roundMinor d).map

theorem failsOnly_quantize (amount : Decimal) (currency : Currency) :
    FailsOnly PricingError.IsArithmetic (quantize amount currency) := by
  unfold quantize
  refine (failsOnly_elim trivial fun _ _ => failsOnly_ok).bind fun scale _ => ?_
  refine (failsOnly_elim trivial fun _ _ => failsOnly_ok).bind fun minor _ => ?_
  exact (failsOnly_roundMinor minor).map

theorem currency_divide {price part : Money} {quantity : Nat}
    (h : price.divide quantity = .ok part) : part.currency = price.currency := by
  unfold divide at h
  split at h
  · rw [← Except.ok.inj h]
    rfl
  · obtain ⟨_, -, h⟩ := bind_eq_ok.1 h
    rw [← pure_eq_ok.1 h]

end Money

/-! ## Discounts -/

theorem failsOnly_percentOf (fraction : Decimal) (minor : Int) :
    FailsOnly PricingError.IsArithmetic (percentOf fraction minor) := by
  unfold percentOf
  split
  · exact failsOnly_error trivial
  · rename_i product _
    exact (failsOnly_roundMinor product).mapError fun _ _ => trivial

/-- A price is discounted in its own currency. -/
theorem failsOnly_discountedPrice {value : Decimal} {valueType : ValueType} {currency : Currency}
    {price : Money} (h : price.currency = currency) :
    FailsOnly PricingError.IsArithmetic (discountedPrice value valueType currency price) := by
  cases valueType with
  | fixed =>
    refine (Money.failsOnly_quantize value currency).bind fun discount hdiscount => ?_
    exact (Money.failsOnly_sub (h.trans (currency_quantize hdiscount).symm)).map
  | percentage =>
    simp only [discountedPrice, h, ne_eq, not_true_eq_false, if_false]
    refine (failsOnly_elim trivial fun _ _ => failsOnly_ok).bind fun remaining _ => ?_
    exact (failsOnly_percentOf remaining price.minorUnits).map

theorem DiscountValue.failsOnly_amountOff (d : DiscountValue) (price : Money) :
    FailsOnly PricingError.IsArithmetic (d.amountOff price) := by
  refine (failsOnly_discountedPrice rfl).bind fun later hlater => ?_
  exact Money.failsOnly_sub (discountedPrice_floored hlater).2.symm

theorem DiscountValue.currency_amountOff {d : DiscountValue} {price off : Money}
    (h : d.amountOff price = .ok off) : off.currency = price.currency := by
  obtain ⟨later, -, rfl⟩ := amountOff_eq_ok.1 h
  rfl

/-! ## Lines -/

namespace Line

variable {line line' : Line} {amount : Money} {currency : Currency}

theorem failsOnly_baseTotal (line : Line) :
    FailsOnly PricingError.IsArithmetic line.baseTotal :=
  Money.failsOnly_times _ _

theorem failsOnly_catalogueDiscountAmount
    (h : line.undiscountedUnitPrice.currency = line.discountedUnitPrice.currency) :
    FailsOnly PricingError.IsArithmetic line.catalogueDiscountAmount :=
  (Money.failsOnly_sub h).bind fun _ _ => Money.failsOnly_times _ _

theorem failsOnly_applyDiscount (h : line.totalPrice.currency = amount.currency) :
    Step.FailsOnly PricingError.IsArithmetic (applyDiscount amount) line := by
  refine Step.failsOnly_of ?_
  rw [Money.sub_eq_ok.2 ⟨h, rfl⟩]
  dsimp only
  split
  · rename_i e he
    exact failsOnly_error (Money.failsOnly_divide _ _ e he)
  · split
    · rename_i e he
      exact failsOnly_error (Money.failsOnly_divide _ _ e he)
    · exact failsOnly_ok

end Line

/-- The subtotal of lines in one currency. -/
theorem failsOnly_baseSubtotal {lines : List Line} {currency : Currency}
    (h : ∀ line ∈ lines, line.baseUnitPrice.currency = currency) :
    FailsOnly PricingError.IsArithmetic (baseSubtotal lines currency) := by
  refine (failsOnly_mapM fun line _ => line.failsOnly_baseTotal).bind fun totals htotals => ?_
  refine Money.failsOnly_total fun total htotal => ?_
  obtain ⟨line, hline, htimes⟩ := exists_left_of_forall₂ (mapM_eq_ok.1 htotals) htotal
  rw [(Money.times_eq_ok.1 htimes).2]
  exact h line hline

/-! ## Redistribution -/

theorem failsOnly_spread {subtotal discount : Money}
    (hsubtotal : discount.currency = subtotal.currency) {assigned : Money} {lines : List Line}
    (hassigned : discount.currency = assigned.currency)
    (h : ∀ line ∈ lines, line.totalPrice.currency = discount.currency) :
    FailsOnly PricingError.IsArithmetic
      (Redistribution.spread subtotal discount assigned lines).1 := by
  fun_induction Redistribution.spread subtotal discount assigned lines with
  | case1 => exact failsOnly_ok
  | case2 _ line e he => exact failsOnly_error (Money.failsOnly_sub hassigned e he)
  | case3 _ line remainder hremainder e line' he =>
    rw [List.forall_mem_singleton] at h
    have hcurrency : remainder.currency = discount.currency := by
      rw [(Money.sub_eq_ok.1 hremainder).2]
    exact failsOnly_error (Line.failsOnly_applyDiscount (h.trans hcurrency.symm) e line' he)
  | case4 => exact failsOnly_ok
  | case5 _ line next rest e he =>
    rw [List.forall_mem_cons] at h
    exact failsOnly_error (Money.failsOnly_share h.1.symm hsubtotal e he)
  | case6 _ line next rest share hshare e line' he =>
    rw [List.forall_mem_cons] at h
    obtain ⟨-, -, hcurrency, -⟩ := Money.share_eq_ok hshare
    exact failsOnly_error (Line.failsOnly_applyDiscount (h.1.trans hcurrency.symm) e line' he)
  | case7 _ line next rest share hshare line' _ e he =>
    obtain ⟨-, -, hcurrency, -⟩ := Money.share_eq_ok hshare
    exact failsOnly_error (Money.failsOnly_add (hassigned.symm.trans hcurrency.symm) e he)
  | case8 _ line next rest share _ line' _ assigned' hadd e lines' he ih =>
    rw [List.forall_mem_cons] at h
    rw [he] at ih
    refine ih ?_ h.2
    rw [(Money.add_eq_ok.1 hadd).2]
    exact hassigned
  | case9 => exact failsOnly_ok

/-- A discount spread over lines in its currency. -/
theorem failsOnly_redistribute {subtotal discount : Money} {lines : List Line}
    (hsubtotal : discount.currency = subtotal.currency)
    (h : ∀ line ∈ lines, line.totalPrice.currency = discount.currency) :
    Step.FailsOnly PricingError.IsArithmetic (redistribute subtotal discount) lines :=
  Step.failsOnly_of (failsOnly_spread hsubtotal rfl h)

end Retail
