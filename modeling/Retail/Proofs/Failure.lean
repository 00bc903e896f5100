import Retail.Proofs.Success

/-!
# What a failure leaves

A step that fails keeps what it changed before. Where a step is made of several parts, those before
the one that fails have succeeded, and those behind it are not done. What every part keeps, the step
keeps in either case.

## Main definitions

* `Step.Keeps`: a property that a step keeps, also where it fails

## Main results

* `Step.runOn_bind_eq_error` and its like: where a step fails
* `Step.runOn_onEach_eq_error`: where a step on each element of a list fails
* `Step.Keeps.bind` and its like: what a step keeps
-/

namespace Retail

theorem mapError_eq_error {ε ε' α : Type} {f : ε → ε'} {result : Except ε α} {e' : ε'} :
    result.mapError f = .error e' ↔ ∃ e, result = .error e ∧ f e = e' := by
  cases result <;> simp [Except.mapError]

namespace Step

variable {σ τ ε ε' α β : Type} {s t : σ} {e : ε}

theorem runOn_bind_eq_error {step : Step σ ε α} {next : α → Step σ ε β} :
    (step >>= next).runOn s = (.error e, t) ↔
      step.runOn s = (.error e, t) ∨
        ∃ a m, step.runOn s = (.ok a, m) ∧ (next a).runOn m = (.error e, t) := by
  rw [runOn_bind]
  rcases step.runOn s with ⟨_ | a, m⟩
  · simp
  · constructor
    · exact fun h => .inr ⟨a, m, rfl, h⟩
    · rintro (h | ⟨_, _, h, h'⟩)
      · simp at h
      · cases h
        exact h'

theorem runOn_bind_pure_eq_error {step : Step σ ε α} {f : α → β} :
    (step >>= fun a => pure (f a)).runOn s = (.error e, t) ↔ step.runOn s = (.error e, t) := by
  refine runOn_bind_eq_error.trans ⟨fun h => h.resolve_right ?_, .inl⟩
  rintro ⟨_, _, _, h⟩
  exact nomatch h

theorem runOn_answer_bind_eq_error {result : Except ε α} {next : α → Step σ ε β} :
    (answer result >>= next).runOn s = (.error e, t) ↔
      (result = .error e ∧ t = s) ∨ ∃ a, result = .ok a ∧ (next a).runOn s = (.error e, t) := by
  cases result with
  | error e' => simp [runOn_bind, eq_comm]
  | ok a => simp [runOn_bind]

theorem runOn_mapError_eq_error {rename : ε → ε'} {step : Step σ ε α} {e' : ε'} :
    (step.mapError rename).runOn s = (.error e', t) ↔
      ∃ e, step.runOn s = (.error e, t) ∧ rename e = e' := by
  rw [runOn_mapError]
  rcases step.runOn s with ⟨_ | _, _⟩ <;> simp [Except.mapError, and_comm]

theorem runOn_on_eq_error {get : τ → σ} {set : σ → τ → τ} {step : Step σ ε α} {w w' : τ} :
    (step.on get set).runOn w = (.error e, w') ↔
      ∃ part, step.runOn (get w) = (.error e, part) ∧ set part w = w' := by
  rw [runOn_on]
  rcases step.runOn (get w) with ⟨_ | _, part⟩
  · simp only [Prod.mk.injEq, Except.error.injEq]
    constructor
    · rintro ⟨rfl, rfl⟩
      exact ⟨part, ⟨rfl, rfl⟩, rfl⟩
    · rintro ⟨_, ⟨rfl, rfl⟩, rfl⟩
      exact ⟨rfl, rfl⟩
  · simp

/-- A step on a list fails at one element. Those before it have changed, and those behind it are as
they were. -/
theorem runOn_onEach_eq_error {step : Step σ ε α} {xs xs' : List σ} :
    (onEach step).runOn xs = (.error e, xs') ↔
      ∃ before x after, ∃ results : List (α × σ), ∃ x', xs = before ++ x :: after ∧
        List.Forall₂ (fun x result => step.runOn x = (.ok result.1, result.2)) before results ∧
        step.runOn x = (.error e, x') ∧ xs' = results.map Prod.snd ++ x' :: after := by
  show onEach.go step xs = (.error e, xs') ↔ _
  induction xs generalizing xs' with
  | nil => simp [onEach.go]
  | cons x rest ih =>
    rw [onEach.go]
    constructor
    · intro h
      rcases hfirst : step.runOn x with ⟨_ | answer, x'⟩
      · simp only [hfirst, Prod.mk.injEq, Except.error.injEq] at h
        obtain ⟨rfl, rfl⟩ := h
        exact ⟨[], x, rest, [], x', rfl, .nil, hfirst, rfl⟩
      · rcases hrest : onEach.go step rest with ⟨_ | _, rest'⟩
        · simp only [hfirst, hrest, Prod.mk.injEq, Except.error.injEq] at h
          obtain ⟨rfl, rfl⟩ := h
          obtain ⟨before, y, after, results, y', rfl, hbefore, hy, rfl⟩ := ih.1 hrest
          exact ⟨x :: before, y, after, (answer, x') :: results, y', rfl, .cons hfirst hbefore, hy,
            rfl⟩
        · simp [hfirst, hrest] at h
    · rintro ⟨_, y, after, _, y', hsplit, hbefore, hy, rfl⟩
      cases hbefore with
      | nil =>
        obtain ⟨rfl, rfl⟩ := List.cons.inj hsplit
        simp [hy]
      | @cons _ result before results hfirst hbefore =>
        rw [List.cons_append] at hsplit
        obtain ⟨rfl, rfl⟩ := List.cons.inj hsplit
        have hrest := ih.2 ⟨before, y, after, results, y', rfl, hbefore, hy, rfl⟩
        simp [hfirst, hrest]

/-! ## What steps keep -/

variable {P : σ → Prop}

/-- The property holds after the step where it held before, whether the step fails or not. -/
def Keeps (P : σ → Prop) (step : Step σ ε α) : Prop :=
  ∀ state, P state → P (step.runOn state).2

theorem keeps_pure (a : α) : Keeps P (pure a : Step σ ε α) := fun _ h => h

theorem keeps_throw (e : ε) : Keeps P (throw e : Step σ ε α) := fun _ h => h

theorem keeps_answer (result : Except ε α) : Keeps P (answer result) := fun _ h => h

theorem keeps_modify {f : σ → σ} (h : ∀ state, P state → P (f state)) :
    Keeps P (modify f : Step σ ε PUnit) := h

/-- What holds after the first part holds after the second one if that keeps it. -/
theorem holds_bind {step : Step σ ε α} {next : α → Step σ ε β} {state : σ}
    (hstep : P (step.runOn state).2) (hnext : ∀ a, Keeps P (next a)) :
    P ((step >>= next).runOn state).2 := by
  rw [runOn_bind]
  revert hstep
  rcases step.runOn state with ⟨_ | a, middle⟩
  · exact id
  · exact hnext a middle

theorem Keeps.bind {step : Step σ ε α} {next : α → Step σ ε β} (hstep : Keeps P step)
    (hnext : ∀ a, Keeps P (next a)) : Keeps P (step >>= next) :=
  fun state hstate => holds_bind (hstep state hstate) hnext

theorem Keeps.discard {step : Step σ ε α} (h : Keeps P step) : Keeps P (discard step) :=
  h.bind fun _ => keeps_pure _

/-- A part that is done only under a condition. -/
theorem Keeps.ite {p : Prop} [Decidable p] {step other : Step σ ε α} (hstep : Keeps P step)
    (hother : Keeps P other) : Keeps P (if p then step else other) := by
  split <;> assumption

/-- A part that is done only where something is there. -/
theorem keeps_forM {o : Option α} {step : α → Step σ ε PUnit} (h : ∀ a, Keeps P (step a)) :
    Keeps P (o.forM step) := by
  cases o with
  | none => exact keeps_pure _
  | some a => exact h a

/-- A step that depends on the state it is done on. -/
theorem keeps_get_bind {next : σ → Step σ ε β}
    (h : ∀ state, P state → P ((next state).runOn state).2) :
    Keeps P ((get : Step σ ε σ) >>= next) := by
  intro state hstate
  rw [runOn_get_bind]
  exact h state hstate

theorem keeps_mapM {f : α → Step σ ε β} {xs : List α} (h : ∀ x ∈ xs, Keeps P (f x)) :
    Keeps P (xs.mapM f) := by
  induction xs with
  | nil =>
    rw [List.mapM_nil]
    exact keeps_pure []
  | cons x rest ih =>
    rw [List.forall_mem_cons] at h
    rw [List.mapM_cons]
    exact h.1.bind fun _ => (ih h.2).bind fun _ => keeps_pure _

end Step

end Retail
