/-!
# Steps that may fail

A step changes a state and may fail on its way. What it changed before it failed stays changed, so a
step that fails still has a state afterwards.

## Main definitions

* `Step σ ε α`: a step on `σ` that fails with `ε` or answers `α`
* `Step.onEach`: a step done on the elements of a list, up to the first failure
* `Step.on`: a step done on a part of the state
-/

namespace Retail

/-- A step on the state `σ` that fails with an `ε` or answers an `α`. -/
abbrev Step (σ ε α : Type) := ExceptT ε (StateM σ) α

namespace Step

variable {σ τ ε ε' α β : Type}

/-- The answer or failure, and the state afterwards. -/
def runOn (step : Step σ ε α) (state : σ) : Except ε α × σ := (ExceptT.run step).run state

/-- A step given by what it answers and leaves. -/
def of (f : σ → Except ε α × σ) : Step σ ε α := ExceptT.mk (m := StateM σ) f

/-- An answer that leaves the state as it is. -/
def answer (result : Except ε α) : Step σ ε α := of fun state => (result, state)

/-- The step with its failures renamed. -/
def mapError (rename : ε → ε') (step : Step σ ε α) : Step σ ε' α :=
  of fun state => ((step.runOn state).1.mapError rename, (step.runOn state).2)

/-- The step on the part of a larger state. -/
def on (get : τ → σ) (set : σ → τ → τ) (step : Step σ ε α) : Step τ ε α :=
  of fun whole => ((step.runOn (get whole)).1, set (step.runOn (get whole)).2 whole)

/-- The step on each element from the first on. After a failure the elements that are left stay as
they are. -/
def onEach (step : Step σ ε α) : Step (List σ) ε (List α) :=
  of go
where
  /-- Does the step on the elements of the list. -/
  go : List σ → Except ε (List α) × List σ
    | [] => (.ok [], [])
    | x :: rest =>
      match step.runOn x with
      | (.error e, x') => (.error e, x' :: rest)
      | (.ok a, x') =>
        match go rest with
        | (.error e, rest') => (.error e, x' :: rest')
        | (.ok answers, rest') => (.ok (a :: answers), x' :: rest')

/-! ## Results of steps

A step is known by what it answers and leaves on each state. -/

@[simp] theorem runOn_of (f : σ → Except ε α × σ) (state : σ) : (of f).runOn state = f state := rfl

@[simp] theorem runOn_pure (a : α) (state : σ) :
    (pure a : Step σ ε α).runOn state = (.ok a, state) := rfl

@[simp] theorem runOn_throw (e : ε) (state : σ) :
    (throw e : Step σ ε α).runOn state = (.error e, state) := rfl

/-- After a failure the next step is not done. -/
theorem runOn_bind (step : Step σ ε α) (next : α → Step σ ε β) (state : σ) :
    (step >>= next).runOn state =
      match step.runOn state with
      | (.ok a, state) => (next a).runOn state
      | (.error e, state) => (.error e, state) := by
  show (match step.runOn state with
    | (result, state) => (ExceptT.bindCont next result).run state) = _
  rcases step.runOn state with ⟨_ | _, _⟩ <;> rfl

@[simp] theorem runOn_get (state : σ) : (get : Step σ ε σ).runOn state = (.ok state, state) := rfl

@[simp] theorem runOn_set (state state' : σ) :
    (set state' : Step σ ε PUnit).runOn state = (.ok ⟨⟩, state') := rfl

@[simp] theorem runOn_modify (f : σ → σ) (state : σ) :
    (modify f : Step σ ε PUnit).runOn state = (.ok ⟨⟩, f state) := rfl

@[simp] theorem runOn_answer (result : Except ε α) (state : σ) :
    (answer result).runOn state = (result, state) := rfl

@[simp] theorem runOn_mapError (rename : ε → ε') (step : Step σ ε α) (state : σ) :
    (step.mapError rename).runOn state =
      ((step.runOn state).1.mapError rename, (step.runOn state).2) := rfl

@[simp] theorem runOn_on (get : τ → σ) (set : σ → τ → τ) (step : Step σ ε α) (whole : τ) :
    (step.on get set).runOn whole =
      ((step.runOn (get whole)).1, set (step.runOn (get whole)).2 whole) := rfl

end Step

end Retail
