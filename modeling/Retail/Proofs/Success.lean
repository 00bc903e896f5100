import Mathlib.Data.List.Forall2
import Retail.Step

/-!
# What a success says

A calculation made of several parts succeeds exactly when each of its parts does. The lemmas of this
file take the success of a whole apart, for plain results and for steps.

## Main results

* `bind_eq_ok`, `mapError_eq_ok` and their like: results
* `mapM_eq_ok`: results for all elements of a list
* `exists_left_of_forall₂`, `exists_right_of_forall₂`: elements of related lists
* `foldlM_eq_ok_induction`: what each part of a fold keeps, the fold keeps
* `exists_forall₂_of_foldlM_eq_ok`: what the parts of a fold enter
* `Step.runOn_bind_eq_ok` and its like: steps
-/

namespace Retail

variable {ε ε' α β : Type}

/-! ## Results -/

theorem bind_eq_ok {x : Except ε α} {f : α → Except ε β} {b : β} :
    (x >>= f) = .ok b ↔ ∃ a, x = .ok a ∧ f a = .ok b := by
  cases x <;> simp [bind, Except.bind]

theorem pure_eq_ok {a b : α} : (pure a : Except ε α) = .ok b ↔ a = b := by
  simp [pure, Except.pure]

theorem throw_eq_ok {e : ε} {a : α} : (throw e : Except ε α) = .ok a ↔ False := by
  simp [throw, throwThe, MonadExceptOf.throw]

theorem discard_eq_ok {x : Except ε α} {u : Unit} : discard x = .ok u ↔ ∃ a, x = .ok a := by
  cases x with
  | error e => exact ⟨nofun, nofun⟩
  | ok a => exact ⟨fun _ => ⟨a, rfl⟩, fun _ => rfl⟩

theorem mapError_eq_ok {rename : ε → ε'} {x : Except ε α} {a : α} :
    x.mapError rename = .ok a ↔ x = .ok a := by
  cases x <;> simp [Except.mapError]

theorem map_eq_ok {f : α → β} {x : Except ε α} {b : β} :
    x.map f = .ok b ↔ ∃ a, x = .ok a ∧ f a = b := by
  cases x <;> simp [Except.map]

/-- An optional value that is there comes from one that was there. -/
theorem exists_of_optionMapM_eq_ok {f : α → Except ε β} {o : Option α} {o' : Option β} {b : β}
    (h : o.mapM f = .ok o') (hb : b ∈ o') : ∃ a ∈ o, f a = .ok b := by
  cases o with
  | none =>
    rw [Option.mapM_none, pure_eq_ok] at h
    exact absurd (h ▸ hb) (Option.not_mem_none b)
  | some a =>
    rw [Option.mapM_some, map_eq_pure_bind, bind_eq_ok] at h
    obtain ⟨b', hb', h⟩ := h
    obtain rfl := pure_eq_ok.1 h
    exact ⟨a, rfl, hb'.trans (congrArg _ (Option.some.inj hb))⟩

theorem isSome_of_optionMapM_eq_ok {f : α → Except ε β} {o : Option α} {o' : Option β}
    (h : o.mapM f = .ok o') : o'.isSome = o.isSome := by
  cases o with
  | none =>
    rw [Option.mapM_none, pure_eq_ok] at h
    subst h
    rfl
  | some a =>
    rw [Option.mapM_some, map_eq_pure_bind, bind_eq_ok] at h
    obtain ⟨b, -, h⟩ := h
    obtain rfl := pure_eq_ok.1 h
    rfl

/-- An optional value that was there has a result. -/
theorem exists_of_mem_of_optionMapM_eq_ok {f : α → Except ε β} {o : Option α} {o' : Option β}
    {a : α} (h : o.mapM f = .ok o') (ha : a ∈ o) : ∃ b ∈ o', f a = .ok b := by
  obtain rfl := ha
  rw [Option.mapM_some, map_eq_pure_bind, bind_eq_ok] at h
  obtain ⟨b, hb, h⟩ := h
  obtain rfl := pure_eq_ok.1 h
  exact ⟨b, rfl, hb⟩

/-- What holds of a value and its result alike holds of both or neither, where there are any. -/
theorem forall_mem_iff_of_optionMapM_eq_ok {f : α → Except ε β} {p : α → Prop} {q : β → Prop}
    {o : Option α} {o' : Option β} (h : o.mapM f = .ok o')
    (halike : ∀ a b, f a = .ok b → (p a ↔ q b)) : (∀ a ∈ o, p a) ↔ ∀ b ∈ o', q b := by
  constructor
  · intro hp b hb
    obtain ⟨a, ha, hab⟩ := exists_of_optionMapM_eq_ok h hb
    exact (halike a b hab).1 (hp a ha)
  · intro hq a ha
    obtain ⟨b, hb, hab⟩ := exists_of_mem_of_optionMapM_eq_ok h ha
    exact (halike a b hab).2 (hq b hb)

/-- Results for all elements of a list. -/
theorem mapM_eq_ok {f : α → Except ε β} {xs : List α} {ys : List β} :
    xs.mapM f = .ok ys ↔ List.Forall₂ (fun x y => f x = .ok y) xs ys := by
  induction xs generalizing ys with
  | nil =>
    rw [List.mapM_nil, pure_eq_ok, List.forall₂_nil_left_iff]
    exact eq_comm
  | cons x rest ih =>
    simp only [List.mapM_cons, bind_eq_ok, pure_eq_ok, List.forall₂_cons_left_iff, ih]
    constructor
    · rintro ⟨y, hy, ys, hys, rfl⟩
      exact ⟨y, ys, hy, hys, rfl⟩
    · rintro ⟨y, ys, hy, hys, rfl⟩
      exact ⟨y, hy, ys, hys, rfl⟩

/-- Lists whose elements answer the same, one by one, have the same results. -/
theorem mapM_congr {f : α → Except ε β} {xs ys : List α}
    (h : List.Forall₂ (fun x y => f y = f x) xs ys) : ys.mapM f = xs.mapM f := by
  induction h with
  | nil => rfl
  | cons hfirst _ ih => rw [List.mapM_cons, List.mapM_cons, hfirst, ih]

/-- Whatever stands on the right of related lists is related to something on the left. -/
theorem exists_left_of_forall₂ {R : α → β → Prop} {xs : List α} {ys : List β} {y : β}
    (h : List.Forall₂ R xs ys) (hy : y ∈ ys) : ∃ x ∈ xs, R x y := by
  induction h with
  | nil => exact absurd hy List.not_mem_nil
  | cons hfirst _ ih =>
    rcases List.mem_cons.1 hy with rfl | hy
    · exact ⟨_, List.mem_cons_self, hfirst⟩
    · obtain ⟨x, hx, hrelated⟩ := ih hy
      exact ⟨x, List.mem_cons_of_mem _ hx, hrelated⟩

/-- Whatever stands on the left of related lists is related to something on the right. -/
theorem exists_right_of_forall₂ {R : α → β → Prop} {xs : List α} {ys : List β} {x : α}
    (h : List.Forall₂ R xs ys) (hx : x ∈ xs) : ∃ y ∈ ys, R x y :=
  exists_left_of_forall₂ h.flip hx

/-- What holds of related elements alike holds of all on the left if it does of all on the right. -/
theorem forall_mem_iff_of_forall₂ {R : α → β → Prop} {p : α → Prop} {q : β → Prop} {xs : List α}
    {ys : List β} (h : List.Forall₂ R xs ys) (halike : ∀ x y, R x y → (p x ↔ q y)) :
    (∀ x ∈ xs, p x) ↔ ∀ y ∈ ys, q y := by
  induction h with
  | nil => simp
  | cons hfirst _ ih => rw [List.forall_mem_cons, List.forall_mem_cons, halike _ _ hfirst, ih]

/-- What holds of related elements alike holds of one on the left if it does of one on the right. -/
theorem exists_mem_iff_of_forall₂ {R : α → β → Prop} {p : α → Prop} {q : β → Prop} {xs : List α}
    {ys : List β} (h : List.Forall₂ R xs ys) (halike : ∀ x y, R x y → (p x ↔ q y)) :
    (∃ x ∈ xs, p x) ↔ ∃ y ∈ ys, q y := by
  induction h with
  | nil => simp
  | cons hfirst _ ih =>
    rw [List.exists_mem_cons_iff, List.exists_mem_cons_iff, halike _ _ hfirst, ih]

/-- Where related elements are found by the same test, the first ones found are related. -/
theorem exists_find?_of_forall₂ {R : α → β → Prop} {p : α → Bool} {q : β → Bool} {xs : List α}
    {ys : List β} {x : α} (h : List.Forall₂ R xs ys) (htest : ∀ x y, R x y → q y = p x)
    (hx : xs.find? p = some x) : ∃ y, ys.find? q = some y ∧ R x y := by
  induction h with
  | nil => contradiction
  | @cons first other _ _ hfirst _ ih =>
    have hother := htest first other hfirst
    by_cases hfound : p first
    · rw [List.find?_cons_of_pos hfound] at hx
      obtain rfl := Option.some.inj hx
      exact ⟨other, List.find?_cons_of_pos (hother.trans hfound), hfirst⟩
    · rw [List.find?_cons_of_neg hfound] at hx
      rw [← hother] at hfound
      rw [List.find?_cons_of_neg hfound]
      exact ih hx

/-- What is known of the elements of related lists may be used for another relation. -/
theorem forall₂_imp_of_mem {R S : α → β → Prop} {xs : List α} {ys : List β}
    (h : List.Forall₂ R xs ys) (himp : ∀ x ∈ xs, ∀ y ∈ ys, R x y → S x y) :
    List.Forall₂ S xs ys := by
  induction h with
  | nil => exact .nil
  | cons hfirst _ ih =>
    refine .cons (himp _ List.mem_cons_self _ List.mem_cons_self hfirst) (ih fun x hx y hy => ?_)
    exact himp x (List.mem_cons_of_mem _ hx) y (List.mem_cons_of_mem _ hy)

/-- Related lists have the same images under functions that agree on what is related. -/
theorem map_eq_of_forall₂ {γ : Type} {R : α → β → Prop} {f : α → γ} {g : β → γ} {xs : List α}
    {ys : List β} (h : List.Forall₂ R xs ys) (hagree : ∀ x y, R x y → f x = g y) :
    xs.map f = ys.map g := by
  induction h with
  | nil => rfl
  | cons hfirst _ ih => rw [List.map_cons, List.map_cons, hagree _ _ hfirst, ih]

/-- Lists related to a common one are related to each other. -/
theorem forall₂_trans {γ : Type} {R : α → β → Prop} {S : β → γ → Prop} {T : α → γ → Prop}
    {xs : List α} {ys : List β} {zs : List γ} (h : List.Forall₂ R xs ys)
    (h' : List.Forall₂ S ys zs) (trans : ∀ x y z, R x y → S y z → T x z) :
    List.Forall₂ T xs zs := by
  induction h generalizing zs with
  | nil =>
    cases h'
    exact .nil
  | cons hfirst _ ih =>
    cases h' with
    | cons hfirst' hrest' => exact .cons (trans _ _ _ hfirst hfirst') (ih hrest')

/-- What comes of related lists is related. -/
theorem forall₂_square {γ δ : Type} {R : α → β → Prop} {S : α → γ → Prop} {T : β → δ → Prop}
    {U : γ → δ → Prop} {xs : List α} {ys : List β} {zs : List γ} {ws : List δ}
    (h : List.Forall₂ R xs ys) (hleft : List.Forall₂ S xs zs) (hright : List.Forall₂ T ys ws)
    (square : ∀ x ∈ xs, ∀ y ∈ ys, ∀ z ∈ zs, ∀ w ∈ ws, R x y → S x z → T y w → U z w) :
    List.Forall₂ U zs ws := by
  have hfirst := forall₂_imp_of_mem hleft (S := fun x z => x ∈ xs ∧ z ∈ zs ∧ S x z)
    fun _ hx _ hz hrelated => ⟨hx, hz, hrelated⟩
  have hsecond := forall₂_imp_of_mem hright (S := fun y w => y ∈ ys ∧ w ∈ ws ∧ T y w)
    fun _ hy _ hw hrelated => ⟨hy, hw, hrelated⟩
  have hmiddle := forall₂_trans hfirst.flip h
    (T := fun z y => ∃ x ∈ xs, z ∈ zs ∧ S x z ∧ R x y)
    fun _ x _ ⟨hx, hz, hrelated⟩ hbase => ⟨x, hx, hz, hrelated, hbase⟩
  refine forall₂_trans hmiddle hsecond ?_
  rintro z y w ⟨x, hx, hz, hleft, hbase⟩ ⟨hy, hw, hright⟩
  exact square x hx y hy z hz w hw hbase hleft hright

/-- What each part of a fold keeps, the fold keeps. -/
theorem foldlM_eq_ok_induction {P : β → Prop} {f : β → α → Except ε β} {xs : List α} {b b' : β}
    (step : ∀ x ∈ xs, ∀ b b', f b x = .ok b' → P b → P b')
    (h : xs.foldlM f b = .ok b') (hb : P b) : P b' := by
  induction xs generalizing b with
  | nil =>
    rw [List.foldlM_nil, pure_eq_ok] at h
    exact h ▸ hb
  | cons x rest ih =>
    simp only [List.foldlM_cons, bind_eq_ok] at h
    obtain ⟨m, hm, h⟩ := h
    exact ih (fun y hy => step y (List.mem_cons_of_mem x hy)) h
      (step x List.mem_cons_self b m hm hb)

/-- What a fold enters behind what was there, one for each element. Each is related to the state
before all of them, as far as the others keep that. -/
theorem exists_forall₂_of_foldlM_eq_ok {γ : Type} {add : β → α → Except ε β} {K : β → β → Prop}
    {R : β → α → γ → Prop} (entries : β → List γ) (refl : ∀ b, K b b)
    (trans : ∀ {b m b'}, K b m → K m b' → K b b')
    (step : ∀ {b b' x}, add b x = .ok b' →
      K b b' ∧ ∃ c, entries b' = entries b ++ [c] ∧ R b x c)
    (back : ∀ {b b' x c}, K b b' → R b' x c → R b x c) {xs : List α} {b b' : β}
    (h : xs.foldlM add b = .ok b') :
    K b b' ∧ ∃ cs, entries b' = entries b ++ cs ∧ List.Forall₂ (R b) xs cs := by
  induction xs generalizing b with
  | nil =>
    rw [List.foldlM_nil, pure_eq_ok] at h
    subst h
    exact ⟨refl b, [], (List.append_nil _).symm, .nil⟩
  | cons x rest ih =>
    simp only [List.foldlM_cons, bind_eq_ok] at h
    obtain ⟨m, hfirst, h⟩ := h
    obtain ⟨hkeeps, c, hc, hrelated⟩ := step hfirst
    obtain ⟨hkeeps', cs, hcs, hothers⟩ := ih h
    refine ⟨trans hkeeps hkeeps', c :: cs, ?_, .cons hrelated (hothers.imp fun _ _ => back hkeeps)⟩
    rw [hcs, hc, List.append_assoc, List.singleton_append]

/-! ## Steps -/

namespace Step

variable {σ τ : Type} {s t : σ}

theorem runOn_bind_eq_ok {step : Step σ ε α} {next : α → Step σ ε β} {b : β} :
    (step >>= next).runOn s = (.ok b, t) ↔
      ∃ a m, step.runOn s = (.ok a, m) ∧ (next a).runOn m = (.ok b, t) := by
  rw [runOn_bind]
  rcases step.runOn s with ⟨_ | a, m⟩
  · simp
  · refine ⟨fun h => ⟨a, m, rfl, h⟩, ?_⟩
    rintro ⟨_, _, h, h'⟩
    cases h
    exact h'

/-! Steps that cannot fail are taken in passing. -/

@[simp] theorem runOn_get_bind (next : σ → Step σ ε β) :
    ((get : Step σ ε σ) >>= next).runOn s = (next s).runOn s :=
  runOn_bind _ _ _

@[simp] theorem runOn_set_bind (next : PUnit → Step σ ε β) :
    ((set t : Step σ ε PUnit) >>= next).runOn s = (next ⟨⟩).runOn t :=
  runOn_bind _ _ _

@[simp] theorem runOn_modify_bind (f : σ → σ) (next : PUnit → Step σ ε β) :
    ((modify f : Step σ ε PUnit) >>= next).runOn s = (next ⟨⟩).runOn (f s) :=
  runOn_bind _ _ _

/-! The other steps succeed when their parts do. -/

theorem runOn_answer_bind_eq_ok {result : Except ε α} {next : α → Step σ ε β} {b : β} :
    (answer result >>= next).runOn s = (.ok b, t) ↔
      ∃ a, result = .ok a ∧ (next a).runOn s = (.ok b, t) := by
  cases result with
  | error e => simp [runOn_bind]
  | ok a => simp [runOn_bind]

theorem runOn_bind_pure_eq_ok {step : Step σ ε α} {f : α → β} {b : β} :
    (step >>= fun a => pure (f a)).runOn s = (.ok b, t) ↔
      ∃ a, step.runOn s = (.ok a, t) ∧ f a = b := by
  simp only [runOn_bind_eq_ok, runOn_pure, Prod.mk.injEq, Except.ok.injEq]
  constructor
  · rintro ⟨a, _, ha, rfl, rfl⟩
    exact ⟨a, ha, rfl⟩
  · rintro ⟨a, ha, rfl⟩
    exact ⟨a, t, ha, rfl, rfl⟩

theorem runOn_discard_eq_ok {step : Step σ ε α} {u : Unit} :
    (discard step).runOn s = (.ok u, t) ↔ ∃ a, step.runOn s = (.ok a, t) :=
  runOn_bind_pure_eq_ok.trans (exists_congr fun _ => and_iff_left rfl)

theorem runOn_mapError_eq_ok {rename : ε → ε'} {step : Step σ ε α} {a : α} :
    (step.mapError rename).runOn s = (.ok a, t) ↔ step.runOn s = (.ok a, t) := by
  rw [runOn_mapError]
  rcases step.runOn s with ⟨_ | _, _⟩ <;> simp [Except.mapError]

theorem runOn_on_eq_ok {get : τ → σ} {set : σ → τ → τ} {step : Step σ ε α} {w w' : τ} {a : α} :
    (step.on get set).runOn w = (.ok a, w') ↔
      ∃ part, step.runOn (get w) = (.ok a, part) ∧ set part w = w' := by
  rw [runOn_on]
  rcases step.runOn (get w) with ⟨_ | _, part⟩
  · simp
  · simp only [Prod.mk.injEq, Except.ok.injEq]
    constructor
    · rintro ⟨rfl, rfl⟩
      exact ⟨part, ⟨rfl, rfl⟩, rfl⟩
    · rintro ⟨_, ⟨rfl, rfl⟩, rfl⟩
      exact ⟨rfl, rfl⟩

theorem runOn_onEach_cons_eq_ok {step : Step σ ε α} {x : σ} {rest xs' : List σ}
    {answers : List α} :
    (onEach step).runOn (x :: rest) = (.ok answers, xs') ↔
      ∃ answer x' more rest', step.runOn x = (.ok answer, x') ∧
        (onEach step).runOn rest = (.ok more, rest') ∧ answers = answer :: more ∧
        xs' = x' :: rest' := by
  show onEach.go step (x :: rest) = _ ↔ ∃ answer x' more rest', _ ∧ onEach.go step rest = _ ∧ _
  rw [onEach.go]
  rcases step.runOn x with ⟨_ | answer, x'⟩
  · simp
  · rcases onEach.go step rest with ⟨_ | more, rest'⟩
    · simp
    · simp [eq_comm]

/-- A step succeeds on a list when it does on each element. -/
theorem runOn_onEach_eq_ok {step : Step σ ε α} {xs xs' : List σ} {answers : List α} :
    (onEach step).runOn xs = (.ok answers, xs') ↔
      ∃ results : List (α × σ),
        List.Forall₂ (fun x result => step.runOn x = (.ok result.1, result.2)) xs results ∧
        answers = results.map Prod.fst ∧ xs' = results.map Prod.snd := by
  induction xs generalizing answers xs' with
  | nil =>
    show onEach.go step [] = _ ↔ _
    simp [onEach.go, eq_comm]
  | cons x rest ih =>
    simp only [runOn_onEach_cons_eq_ok, ih, List.forall₂_cons_left_iff]
    constructor
    · rintro ⟨answer, x', _, _, hstep, ⟨results, hresults, rfl, rfl⟩, rfl, rfl⟩
      exact ⟨_, ⟨(answer, x'), results, hstep, hresults, rfl⟩, rfl, rfl⟩
    · rintro ⟨_, ⟨result, results, hstep, hresults, rfl⟩, rfl, rfl⟩
      exact ⟨_, _, _, _, hstep, ⟨results, hresults, rfl, rfl⟩, rfl, rfl⟩

end Step

end Retail
