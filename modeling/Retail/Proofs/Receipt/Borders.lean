import Mathlib.Data.List.SplitBy
import Retail.Receipt.Table

/-!
# Borders in colour

The borders of a table are coloured when the table is laid out already, so the colour must neither
add to what is read nor take up room. A code opens grey before each run of border characters and
another one resets it behind the run. Where the text has no escapes of its own, these codes are the
only ones: deleting them gives the text back, and they count for nothing in its width.

## Main definitions

* `Terminal.borderRuns`, `Terminal.MaximalRuns`: a text in runs of border characters and of others
* `Terminal.greyed`: a run with its codes
* `Terminal.shades`: what is left without the codes, and which of it is grey

## Main results

* `Terminal.maximalRuns_borderRuns`: the runs are maximal
* `Terminal.colorBorders_eq_flatMap`: each run of border characters has one code on either side
* `Terminal.shades_colorFrom`, `Terminal.visibleFrom_colorFrom`: what is seen of the codes
* `Terminal.colorBorders_invisible`: all of this for a text without escapes
-/

namespace Retail

namespace Terminal

variable {text run rest : List Char} {runs : List (List Char)} {c : Char} {inside : Bool}

/-! ## Runs -/

/-- The text in its maximal runs of border characters and of other characters. -/
def borderRuns (text : List Char) : List (List Char) :=
  text.splitBy fun a b => isBorder a == isBorder b

/-- A run of border characters between the code that opens grey and the reset. Any other run stays
as it is. -/
def greyed (run : List Char) : List Char :=
  if run.all isBorder then Style.grey.start.toList ++ run ++ Style.grey.finish.toList else run

/-- The first character of a run decides for all of them. -/
theorem isBorder_of_isChain (h : (c :: run).IsChain fun a b => isBorder a == isBorder b) :
    ∀ d ∈ c :: run, isBorder d = isBorder c := by
  induction run generalizing c with
  | nil => simp
  | cons next run ih =>
    obtain ⟨hsame, htail⟩ := List.isChain_cons_cons.1 h
    intro d hd
    rcases List.mem_cons.1 hd with rfl | hd
    · rfl
    · exact (ih htail d hd).trans (beq_iff_eq.1 hsame).symm

theorem isBorder_eq_of_mem_borderRuns (h : run ∈ borderRuns text) :
    ∀ c ∈ run, isBorder c = run.all isBorder := by
  have hchain := List.isChain_of_mem_splitBy h
  cases run with
  | nil => simp
  | cons first run =>
    have hsame := isBorder_of_isChain hchain
    have hall : (first :: run).all isBorder = isBorder first := by
      cases hfirst : isBorder first with
      | true => exact List.all_eq_true.2 fun d hd => (hsame d hd).trans hfirst
      | false => simp [hfirst]
    exact fun c hc => (hsame c hc).trans hall.symm

/-- Runs are not empty, each is of border characters or of others, and neither kind follows itself.
Joined they are the text. -/
structure MaximalRuns (text : List Char) (runs : List (List Char)) : Prop where
  flatten_eq : runs.flatten = text
  ne_nil : ∀ run ∈ runs, run ≠ []
  uniform : ∀ run ∈ runs, ∀ c ∈ run, isBorder c = run.all isBorder
  alternate : runs.IsChain fun run next => next.all isBorder = !run.all isBorder

theorem maximalRuns_borderRuns (text : List Char) : MaximalRuns text (borderRuns text) where
  flatten_eq := List.flatten_splitBy _ _
  ne_nil _ := List.ne_nil_of_mem_splitBy
  uniform _ := isBorder_eq_of_mem_borderRuns
  alternate := by
    have hdiffer := List.isChain_getLast_head_splitBy (fun a b => isBorder a == isBorder b) text
    refine List.IsChain.imp_of_mem_imp ?_ hdiffer
    rintro run next hrun hnext ⟨hne, hne', hends⟩
    rw [isBorder_eq_of_mem_borderRuns hrun _ (List.getLast_mem hne),
      isBorder_eq_of_mem_borderRuns hnext _ (List.head_mem hne')] at hends
    cases hall : run.all isBorder <;> simp_all

/-! ## Codes around the runs -/

/-- The code between a character and the next one, if only one of them is grey. -/
def switch (inside grey : Bool) : List Char :=
  if inside = grey then [] else if grey then Style.grey.start.toList else Style.grey.finish.toList

theorem colorFrom_nil : colorFrom inside [] = switch inside false := by
  cases inside <;> rfl

theorem colorFrom_cons :
    colorFrom inside (c :: rest) =
      switch inside (isBorder c) ++ c :: colorFrom (isBorder c) rest := by
  cases hc : isBorder c <;> cases inside <;> simp [colorFrom, switch, hc]

/-- Within a run there are no codes. -/
theorem colorFrom_append {grey : Bool} (h : ∀ c ∈ run, isBorder c = grey) :
    colorFrom grey (run ++ rest) = run ++ colorFrom grey rest := by
  induction run with
  | nil => rfl
  | cons first run ih =>
    obtain ⟨rfl, hrun⟩ := List.forall_mem_cons.1 h
    rw [List.cons_append, colorFrom_cons, ih hrun, switch, if_pos rfl]
    rfl

/-- Where no border character follows, the colour is reset. -/
theorem colorFrom_of_head (h : ∀ c ∈ rest.head?, isBorder c = false) :
    colorFrom inside rest = switch inside false ++ colorFrom false rest := by
  cases rest with
  | nil => simp [colorFrom_nil, switch]
  | cons first rest =>
    rw [colorFrom_cons, colorFrom_cons, h first rfl]
    simp [switch]

/-- A run of border characters that ends is put between the codes. -/
theorem colorFrom_greyed (hrun : run ≠ []) (hborder : ∀ c ∈ run, isBorder c)
    (hrest : ∀ c ∈ rest.head?, isBorder c = false) :
    colorFrom false (run ++ rest) = Style.grey.start.toList ++ run ++ Style.grey.finish.toList
      ++ colorFrom false rest := by
  obtain ⟨first, run, rfl⟩ := List.exists_cons_of_ne_nil hrun
  obtain ⟨hfirst, hborder⟩ := List.forall_mem_cons.1 hborder
  rw [List.cons_append, colorFrom_cons, hfirst, colorFrom_append hborder, colorFrom_of_head hrest]
  simp [switch]

theorem colorFrom_flatten (hnonempty : ∀ run ∈ runs, run ≠ [])
    (huniform : ∀ run ∈ runs, ∀ c ∈ run, isBorder c = run.all isBorder)
    (halternate : runs.IsChain fun run next => next.all isBorder = !run.all isBorder) :
    colorFrom false runs.flatten = runs.flatMap greyed := by
  induction runs with
  | nil => rfl
  | cons run runs ih =>
    obtain ⟨hne, hnonempty⟩ := List.forall_mem_cons.1 hnonempty
    obtain ⟨hrun, huniform⟩ := List.forall_mem_cons.1 huniform
    rw [List.flatten_cons, List.flatMap_cons, ← ih hnonempty huniform halternate.tail, greyed]
    cases hall : run.all isBorder with
    | false =>
      rw [hall] at hrun
      rw [if_neg Bool.false_ne_true, colorFrom_append hrun]
    | true =>
      rw [hall] at hrun
      rw [if_pos rfl]
      refine colorFrom_greyed hne hrun fun c hc => ?_
      -- The next character, if there is one, is of the next run, which has no border characters.
      cases runs with
      | nil => exact nomatch hc
      | cons next runs =>
        have hnext : next.all isBorder = false := by
          simpa [hall] using (List.isChain_cons_cons.1 halternate).1
        have hmem : c ∈ next := by
          rw [List.flatten_cons, List.head?_append_of_ne_nil _ (hnonempty next List.mem_cons_self)]
            at hc
          exact List.mem_of_mem_head? hc
        exact (huniform next List.mem_cons_self c hmem).trans hnext

/-- Each run of border characters has one code before it and one behind it, and nothing else is
added. -/
theorem colorBorders_eq_flatMap (text : List Char) :
    colorBorders text = (borderRuns text).flatMap greyed := by
  have hruns := maximalRuns_borderRuns text
  rw [← colorFrom_flatten hruns.ne_nil hruns.uniform hruns.alternate, hruns.flatten_eq,
    colorBorders]

/-! ## What is seen of the codes -/

/-- The characters that are left when the codes of grey are deleted, each with whether it stands
between a code that opens grey and its reset. -/
def shades (grey : Bool) : List Char → List (Char × Bool)
  | '\x1b' :: '[' :: '9' :: '0' :: 'm' :: rest => shades true rest
  | '\x1b' :: '[' :: '0' :: 'm' :: rest => shades false rest
  | c :: rest => (c, grey) :: shades grey rest
  | [] => []

/-- The text with the codes of grey deleted. -/
def uncolored (text : List Char) : List Char := (shades false text).map Prod.fst

theorem shades_switch {grey : Bool} :
    shades inside (switch inside grey ++ rest) = shades grey rest := by
  cases inside <;> cases grey <;> rfl

theorem shades_cons {grey : Bool} (h : c ≠ '\x1b') :
    shades grey (c :: rest) = (c, grey) :: shades grey rest := by
  rw [shades] <;> simp_all

/-- Without the codes the text is as before, and what is grey are its borders. -/
theorem shades_colorFrom (h : '\x1b' ∉ text) :
    shades inside (colorFrom inside text) = text.map fun c => (c, isBorder c) := by
  induction text generalizing inside with
  | nil => cases inside <;> rfl
  | cons first rest ih =>
    rw [List.mem_cons, not_or] at h
    rw [colorFrom_cons, shades_switch, shades_cons (Ne.symm h.1), ih h.2, List.map_cons]

theorem visibleFrom_switch {grey : Bool} :
    visibleFrom false (switch inside grey ++ rest) = visibleFrom false rest := by
  cases inside <;> cases grey <;> rfl

theorem visibleFrom_cons (h : c ≠ '\x1b') :
    visibleFrom false (c :: rest) = visibleFrom false rest + 1 := by
  simp [visibleFrom, h]

/-- The codes count for nothing, and every other character for one. -/
theorem visibleFrom_colorFrom (h : '\x1b' ∉ text) :
    visibleFrom false (colorFrom inside text) = text.length := by
  induction text generalizing inside with
  | nil => cases inside <;> rfl
  | cons first rest ih =>
    rw [List.mem_cons, not_or] at h
    rw [colorFrom_cons, visibleFrom_switch, visibleFrom_cons (Ne.symm h.1), ih h.2,
      List.length_cons]

theorem visibleWidth_of_notMem (h : '\x1b' ∉ text) : visibleWidth text = text.length := by
  induction text with
  | nil => rfl
  | cons first rest ih =>
    rw [List.mem_cons, not_or] at h
    rw [visibleWidth, visibleFrom_cons (Ne.symm h.1), ← visibleWidth, ih h.2, List.length_cons]

/-- The borders of a text without escapes are coloured run by run. Nothing else becomes grey, the
text is the same without the codes, and it stays as wide as it was. -/
theorem colorBorders_invisible (text : List Char) (h : '\x1b' ∉ text) :
    MaximalRuns text (borderRuns text) ∧ colorBorders text = (borderRuns text).flatMap greyed ∧
      uncolored (colorBorders text) = text ∧
      shades false (colorBorders text) = (text.map fun c => (c, isBorder c)) ∧
      visibleWidth (colorBorders text) = visibleWidth text ∧ visibleWidth text = text.length := by
  have hshades : shades false (colorBorders text) = text.map fun c => (c, isBorder c) :=
    shades_colorFrom h
  have hwidth := visibleWidth_of_notMem h
  refine ⟨maximalRuns_borderRuns text, colorBorders_eq_flatMap text, ?_, hshades, ?_, hwidth⟩
  · rw [uncolored, hshades, List.map_map]
    exact List.map_id text
  · rw [hwidth]
    exact visibleFrom_colorFrom h

/-- Two runs of borders, one of them at the end. -/
theorem colorBorders_invisible_row : '\x1b' ∉ "a──b│".toList ∧
    borderRuns "a──b│".toList = ["a".toList, "──".toList, "b".toList, "│".toList] ∧
    colorBorders "a──b│".toList = "a\x1b[90m──\x1b[0mb\x1b[90m│\x1b[0m".toList ∧
    uncolored (colorBorders "a──b│".toList) = "a──b│".toList ∧
    visibleWidth (colorBorders "a──b│".toList) = 5 := by
  have hplain : '\x1b' ∉ "a──b│".toList := by decide
  obtain ⟨-, hruns, huncolored, -, hwidth, hlength⟩ := colorBorders_invisible _ hplain
  exact ⟨hplain, by decide, hruns.trans (by decide), huncolored, hwidth.trans hlength⟩

end Terminal

end Retail
