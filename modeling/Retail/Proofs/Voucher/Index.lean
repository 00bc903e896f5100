import Retail.Proofs.Voucher.Customers

/-!
# The index of codes

The book keeps vouchers, codes and customers apart. A code names its voucher, a customer is noted
under the key of a code, and the index leads from texts to keys; nothing but the operations of the
book keeps these in agreement. A code is never removed and its text never changes, so it is enough
that a code and its entry in the index are made together, and only for a text that is new.

## Main definitions

* `Vouchers.Operation`: what is done to a book
* `Vouchers.Indexed`: a book whose parts agree

## Main results

* `Vouchers.keeps_perform`: an operation keeps the parts in agreement, whether it fails or not
* `Vouchers.indexed_of_operations`: so do any number of operations
-/

namespace Retail

namespace Vouchers

variable {book book' : Vouchers} {voucher : VoucherKey} {key : CodeKey} {text email : String}

/-! ## Operations -/

/-- What is done to a book. -/
inductive Operation where
  | addVoucher (terms : Voucher)
  | addCode (voucher : VoucherKey) (text : String)
  | incrementUsage (key : CodeKey) (limit : Option Nat)
  | decrementUsage (key : CodeKey)
  | setCodeActive (key : CodeKey) (active : Bool)
  | addCustomer (key : CodeKey) (email : String)
  | removeCustomer (key : CodeKey) (email : String)

/-- Does the operation, which may fail. -/
def Operation.perform : Operation → Step Vouchers VoucherError Unit
  | .addVoucher terms => modify fun book => (book.addVoucher terms).1
  | .addCode voucher text => discard (change (·.addCode voucher text))
  | .incrementUsage key limit => discard (change (·.incrementUsage key limit))
  | .decrementUsage key => discard (change (·.decrementUsage key))
  | .setCodeActive key active => change fun book => (book.setCodeActive key active).map (·, ())
  | .addCustomer key email => discard (change (·.addCustomer key email))
  | .removeCustomer key email => modify fun book => (book.removeCustomer key email).1

/-- The book after an operation, whether it failed or not. -/
def after (book : Vouchers) (operation : Operation) : Vouchers :=
  (operation.perform.runOn book).2

/-! ## Agreement -/

/-- A text leads to a code exactly where the code has that text, codes are of vouchers of the book,
and customers are noted for codes of the book. -/
structure Indexed (book : Vouchers) : Prop where
  findCode?_eq_some : ∀ text key, book.findCode? text = some key ↔
    ∃ code, book.codes.get? key = some code ∧ code.text = text
  voucher : ∀ key code, book.codes.get? key = some code →
    ∃ terms, book.vouchers.get? code.voucher = some terms
  customer : ∀ key email, (key, email) ∈ book.customers →
    ∃ code, book.codes.get? key = some code

theorem indexed_empty : Indexed .empty where
  findCode?_eq_some _ _ := ⟨nofun, nofun⟩
  voucher _ _ := nofun
  customer _ _ := nofun

namespace Indexed

theorem addVoucher (h : book.Indexed) (terms : Voucher) : (book.addVoucher terms).1.Indexed where
  findCode?_eq_some := h.findCode?_eq_some
  voucher key code hcode := by
    obtain ⟨owner, howner⟩ := h.voucher key code hcode
    exact ⟨owner, Registry.get?_push_of_eq_some howner⟩
  customer := h.customer

/-- The code and its entry in the index are new together, and the text was not in use. -/
theorem addCode (h : book.Indexed) (hadd : book.addCode voucher text = .ok (book', key)) :
    book'.Indexed := by
  obtain ⟨hvoucher, hnew, -, rfl⟩ := addCode_eq_ok.1 hadd
  refine ⟨fun other found => ?_, fun found code hcode => ?_, fun found email hnoted => ?_⟩
  · rw [findCode?, lookup_append_singleton, Registry.get?_push]
    have hold := h.findCode?_eq_some other found
    by_cases htext : text = other
    · subst htext
      rw [beq_self_eq_true, if_pos rfl]
      split
      · rename_i hkey
        simp [hkey]
      · rename_i hkey
        simp only [Option.some.injEq, Ne.symm hkey, false_iff]
        rw [← hold, hnew]
        exact nofun
    · rw [beq_false_of_ne htext, if_neg Bool.false_ne_true]
      split
      · rename_i hkey
        simp only [Option.some.injEq, exists_eq_left', htext, iff_false]
        rw [← findCode?, hold, hkey, Registry.get?_nextKey]
        exact nofun
      · exact hold
  · rw [Registry.get?_push] at hcode
    split at hcode
    · obtain rfl := Option.some.inj hcode
      exact Option.isSome_iff_exists.1 hvoucher
    · exact h.voucher found code hcode
  · obtain ⟨code, hcode⟩ := h.customer found email hnoted
    exact ⟨code, Registry.get?_push_of_eq_some hcode⟩

/-- A code may change in all but its text and its voucher. -/
theorem withCode {f : VoucherCode → VoucherCode} (h : book.Indexed)
    (htext : ∀ code, (f code).text = code.text)
    (hvoucher : ∀ code, (f code).voucher = code.voucher) : (book.withCode key f).Indexed := by
  have hget (other : CodeKey) : (book.withCode key f).codes.get? other =
      (book.codes.get? other).map fun code => if other = key then f code else code := by
    rw [Vouchers.withCode, Registry.get?_modify]
    split
    · rename_i hother
      rw [hother]
    · simp
  refine ⟨fun text other => ?_, fun other code hcode => ?_, fun other email hnoted => ?_⟩
  · refine (h.findCode?_eq_some text other).trans ?_
    simp only [hget, Option.map_eq_some_iff, exists_exists_and_eq_and]
    refine exists_congr fun code => and_congr_right fun _ => ?_
    split <;> simp [htext]
  · obtain ⟨old, hold, rfl⟩ := Option.map_eq_some_iff.1 ((hget other).symm.trans hcode)
    have hsame : (if other = key then f old else old).voucher = old.voucher := by
      split <;> simp [hvoucher]
    rw [hsame]
    exact h.voucher other old hold
  · obtain ⟨code, hcode⟩ := h.customer other email hnoted
    exact ⟨_, (hget other).trans (congrArg (Option.map _) hcode)⟩

theorem incrementUsage {limit : Option Nat} {used : Nat} (h : book.Indexed)
    (hcount : book.incrementUsage key limit = .ok (book', used)) : book'.Indexed := by
  unfold Vouchers.incrementUsage at hcount
  split at hcount
  · exact nomatch hcount
  · split at hcount
    · exact nomatch hcount
    · obtain ⟨rfl, -⟩ := Prod.mk.inj (Except.ok.inj hcount)
      exact h.withCode (fun _ => rfl) fun _ => rfl

theorem decrementUsage {used : Nat} (h : book.Indexed)
    (hcount : book.decrementUsage key = .ok (book', used)) : book'.Indexed := by
  obtain ⟨code, -, -, rfl⟩ := decrementUsage_eq_ok.1 hcount
  exact h.withCode (fun _ => rfl) fun _ => rfl

theorem setCodeActive {active : Bool} (h : book.Indexed)
    (hset : (book.setCodeActive key active).map (·, ()) = .ok (book', ())) : book'.Indexed := by
  unfold Vouchers.setCodeActive at hset
  split at hset
  · obtain ⟨rfl, -⟩ := Prod.mk.inj (Except.ok.inj hset)
    exact h.withCode (fun _ => rfl) fun _ => rfl
  · exact nomatch hset

theorem addCustomer {new : Bool} (h : book.Indexed)
    (hadd : book.addCustomer key email = .ok (book', new)) : book'.Indexed := by
  obtain ⟨hcode, hadded⟩ := addCustomer_eq_ok.1 hadd
  split at hadded
  · exact hadded.2 ▸ h
  · obtain ⟨-, rfl⟩ := hadded
    refine ⟨h.findCode?_eq_some, h.voucher, fun other customer hnoted => ?_⟩
    rcases List.mem_append.1 hnoted with hnoted | hnoted
    · exact h.customer other customer hnoted
    · obtain ⟨rfl, -⟩ := Prod.mk.inj (List.mem_singleton.1 hnoted)
      exact Option.isSome_iff_exists.1 hcode

theorem removeCustomer (h : book.Indexed) (key : CodeKey) (email : String) :
    (book.removeCustomer key email).1.Indexed :=
  ⟨h.findCode?_eq_some, h.voucher, fun other customer hnoted =>
    h.customer other customer (List.mem_filter.1 hnoted).1⟩

/-- No two codes have the same text. -/
theorem text_inj {other : CodeKey} {code same : VoucherCode} (h : book.Indexed)
    (hcode : book.codes.get? key = some code) (hsame : book.codes.get? other = some same)
    (htext : code.text = same.text) : key = other := by
  have hfound := (h.findCode?_eq_some code.text key).2 ⟨code, hcode, rfl⟩
  have hfound' := (h.findCode?_eq_some code.text other).2 ⟨same, hsame, htext.symm⟩
  exact Option.some.inj (hfound.symm.trans hfound')

end Indexed

/-- The parts of the book agree after an operation if they agreed before, also where it fails. -/
theorem keeps_perform (operation : Operation) : Step.Keeps Indexed operation.perform := by
  cases operation with
  | addVoucher terms => exact Step.keeps_modify fun _ h => h.addVoucher terms
  | addCode voucher text => exact (keeps_change fun _ _ _ h => h.addCode).discard
  | incrementUsage key limit => exact (keeps_change fun _ _ _ h => h.incrementUsage).discard
  | decrementUsage key => exact (keeps_change fun _ _ _ h => h.decrementUsage).discard
  | setCodeActive key active => exact keeps_change fun _ _ _ h => h.setCodeActive
  | addCustomer key email => exact (keeps_change fun _ _ _ h => h.addCustomer).discard
  | removeCustomer key email => exact Step.keeps_modify fun _ h => h.removeCustomer key email

theorem indexed_foldl_after (operations : List Operation) (h : book.Indexed) :
    (operations.foldl after book).Indexed := by
  induction operations generalizing book with
  | nil => exact h
  | cons operation rest ih => exact ih (keeps_perform operation book h)

/-! ## Customers -/

/-- A customer has used a voucher exactly where the customer is noted for one of its codes. -/
theorem customerHasUsed_iff_mem_codesOf : book.customerHasUsed voucher email ↔
    ∃ entry ∈ book.codesOf voucher, (entry.1, email) ∈ book.customers := by
  simp only [customerHasUsed_iff, codesOf, List.mem_filter, beq_iff_eq, Prod.exists]
  constructor
  · rintro ⟨key, code, hnoted, hcode, hvoucher⟩
    exact ⟨key, code, ⟨Registry.get?_eq_some.1 hcode, hvoucher⟩, hnoted⟩
  · rintro ⟨key, code, ⟨hmem, hvoucher⟩, hnoted⟩
    exact ⟨key, code, hnoted, Registry.get?_eq_some.2 hmem, hvoucher⟩

/-- Whatever is done to a book that was empty, a text leads to a code exactly where the code has
that text, so that no two codes share one; codes are of vouchers of the book, customers are noted
for its codes, and a customer has used a voucher exactly where one of its codes says so. -/
theorem indexed_of_operations (operations : List Operation) :
    let book := operations.foldl after .empty
    book.Indexed ∧
      (∀ key other code same, book.codes.get? key = some code →
        book.codes.get? other = some same → code.text = same.text → key = other) ∧
      ∀ voucher email, book.customerHasUsed voucher email ↔
        ∃ entry ∈ book.codesOf voucher, (entry.1, email) ∈ book.customers := by
  intro book
  have hindexed : book.Indexed := indexed_foldl_after operations indexed_empty
  exact ⟨hindexed, fun _ _ _ _ => hindexed.text_inj, fun _ _ => customerHasUsed_iff_mem_codesOf⟩

/-- A code is added, again under the same text and under a voucher that there is not, and customers
are noted for it and for a code that there is not. -/
theorem indexed_of_operations_refused :
    let book := [.addVoucher twice, .addCode ⟨1⟩ "HELLO", .addCode ⟨1⟩ "HELLO",
      .addCode ⟨2⟩ "OTHER", .addCustomer ⟨1⟩ "a@x", .addCustomer ⟨2⟩ "b@x"].foldl after .empty
    book.findCode? "HELLO" = some ⟨1⟩ ∧ book.findCode? "OTHER" = none ∧
      book.customerHasUsed ⟨1⟩ "a@x" ∧ ¬ book.customerHasUsed ⟨1⟩ "b@x" := by
  intro book
  obtain ⟨hindexed, -, hused⟩ :
      book.Indexed ∧ _ ∧ ∀ voucher email, book.customerHasUsed voucher email ↔ _ :=
    indexed_of_operations [.addVoucher twice, .addCode ⟨1⟩ "HELLO", .addCode ⟨1⟩ "HELLO",
      .addCode ⟨2⟩ "OTHER", .addCustomer ⟨1⟩ "a@x", .addCustomer ⟨2⟩ "b@x"]
  exact ⟨(hindexed.findCode?_eq_some "HELLO" ⟨1⟩).2 ⟨_, rfl, rfl⟩, rfl,
    (hused ⟨1⟩ "a@x").2 ⟨_, List.mem_cons_self, List.mem_cons_self⟩, by decide⟩

end Vouchers

end Retail
