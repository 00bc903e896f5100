import Retail.Money.Text
import Retail.Proofs.Decimal.Text
import Retail.Proofs.Money.Exact
import Retail.Voucher.Basic

/-!
# Amounts in writing

A customer who is short of the minimum to be spent is shown it in major units with the code of its
currency. That is the form in which prices are listed, so what is shown can be entered: it is read
as the minimum to the minor unit, whatever blanks stand around it and between its two words.

## Main definitions

* `Text.IsWord`: a word
* `Money.spaced`: amount and code, divided by any blanks

## Main results

* `Text.words_pair`: the words of a text of two words
* `Money.ofText_spaced`: what is written is read as the amount
* `Voucher.minimum_ofText`: the minimum that is shown
-/

namespace Retail

/-! ## Words -/

namespace Text

variable {c : Char} {word chars rest blanks first second before between after : List Char}

/-- A word has characters, and none of them is blank. -/
structure IsWord (chars : List Char) : Prop where
  ne_nil : chars ≠ []
  not_blank : ∀ c ∈ chars, isBlank c = false

/-- What is not blank goes on with the word. -/
theorem wordsFrom_append (h : ∀ c ∈ chars, isBlank c = false) :
    wordsFrom word (chars ++ rest) = wordsFrom (chars.reverse ++ word) rest := by
  induction chars generalizing word with
  | nil => rfl
  | cons c chars ih =>
    obtain ⟨hc, hchars⟩ := List.forall_mem_cons.1 h
    rw [List.cons_append, wordsFrom, hc, if_neg Bool.false_ne_true, ih hchars, List.reverse_cons,
      List.append_assoc, List.singleton_append]

/-- Blanks before a word. -/
theorem wordsFrom_nil_append (h : ∀ c ∈ blanks, isBlank c) :
    wordsFrom [] (blanks ++ rest) = wordsFrom [] rest := by
  induction blanks with
  | nil => rfl
  | cons c blanks ih =>
    obtain ⟨hc, hblanks⟩ := List.forall_mem_cons.1 h
    rw [List.cons_append, wordsFrom, if_pos hc, if_pos List.isEmpty_nil, ih hblanks]

/-- Blanks end the word that stands before them. -/
theorem wordsFrom_append_of_ne_nil (hword : word ≠ []) (hne : blanks ≠ [])
    (h : ∀ c ∈ blanks, isBlank c) :
    wordsFrom word (blanks ++ rest) = word.reverse :: wordsFrom [] rest := by
  obtain ⟨c, blanks, rfl⟩ := List.exists_cons_of_ne_nil hne
  obtain ⟨hc, hblanks⟩ := List.forall_mem_cons.1 h
  rw [List.cons_append, wordsFrom, if_pos hc, if_neg (by simpa using hword),
    wordsFrom_nil_append hblanks]

/-- The last word ends with the text or with blanks. -/
theorem wordsFrom_blanks (hword : word ≠ []) (h : ∀ c ∈ blanks, isBlank c) :
    wordsFrom word blanks = [word.reverse] := by
  cases blanks with
  | nil => rw [wordsFrom, if_neg (by simpa using hword)]
  | cons c blanks =>
    rw [← List.append_nil (c :: blanks),
      wordsFrom_append_of_ne_nil hword (List.cons_ne_nil c blanks) h]
    rfl

/-- Two words, with blanks around and between them. -/
theorem words_pair (hfirst : IsWord first) (hsecond : IsWord second) (hne : between ≠ [])
    (hbefore : ∀ c ∈ before, isBlank c) (hbetween : ∀ c ∈ between, isBlank c)
    (hafter : ∀ c ∈ after, isBlank c) :
    words (before ++ (first ++ (between ++ (second ++ after)))) = [first, second] := by
  rw [words, wordsFrom_nil_append hbefore, wordsFrom_append hfirst.not_blank, List.append_nil,
    wordsFrom_append_of_ne_nil (by simpa using hfirst.ne_nil) hne hbetween,
    wordsFrom_append hsecond.not_blank, List.append_nil,
    wordsFrom_blanks (by simpa using hsecond.ne_nil) hafter, List.reverse_reverse,
    List.reverse_reverse]

theorem isBlank_of_isDigit (h : c.isDigit) : isBlank c = false := by
  have hrange : 48 ≤ c.toNat ∧ c.toNat ≤ 57 := by
    simpa [Char.isDigit, UInt32.le_iff_toNat_le] using h
  simp only [isBlank, inRanges, blankRanges, List.any_eq_false, Bool.and_eq_true, decide_eq_true_eq,
    List.forall_mem_cons, List.not_mem_nil, IsEmpty.forall_iff, implies_true, and_true]
  omega

end Text

/-! ## Amounts -/

theorem Decimal.isWord_text (d : Decimal) : Text.IsWord d.text.toList where
  ne_nil := by
    obtain ⟨first, rest, htext, -⟩ := exists_pointedDigits_eq_cons d.scale d.magnitude
    rw [text, String.toList_ofList, htext]
    exact List.append_ne_nil_of_right_ne_nil _ (List.cons_ne_nil first rest)
  not_blank c hc := by
    rcases mem_text hc with hdigit | rfl | rfl
    · exact Text.isBlank_of_isDigit hdigit
    · rfl
    · rfl

namespace Currency

variable {currency : Currency}

theorem isWord_code (currency : Currency) : Text.IsWord currency.code.toList where
  ne_nil := by
    cases currency <;> decide
  not_blank c hc := by
    have hcode : currency.code.toList.all (!Text.isBlank ·) := by
      cases currency <;> rfl
    simpa using List.all_eq_true.1 hcode c hc

theorem ofText_code (h : currency ∈ listed) : ofText currency.code = .ok currency := by
  revert currency
  decide

end Currency

namespace Money

variable {m : Money} {before between after : List Char}

/-- The amount in major units and the code of its currency, with these characters around and between
them. -/
def spaced (m : Money) (before between after : List Char) : String :=
  String.ofList (before ++ (m.toMajor.text.toList ++
    (between ++ (m.currency.code.toList ++ after))))

theorem majorText_eq_spaced (m : Money) : m.majorText = m.spaced [] [' '] [] := by
  rw [majorText, ← String.toList_inj, spaced, String.toList_ofList]
  simp

/-- What is written in major units is read as the amount, in the currencies of prices. -/
theorem ofText_spaced (hfits : fitsMinor m.minor) (hlisted : m.currency ∈ Currency.listed)
    (hbefore : ∀ c ∈ before, Text.isBlank c) (hbetween : ∀ c ∈ between, Text.isBlank c)
    (hne : between ≠ []) (hafter : ∀ c ∈ after, Text.isBlank c) :
    ofText (m.spaced before between after) = .ok m := by
  have hwords : Text.words (m.spaced before between after).toList =
      [m.toMajor.text.toList, m.currency.code.toList] := by
    rw [spaced, String.toList_ofList]
    exact Text.words_pair m.toMajor.isWord_text m.currency.isWord_code hne hbefore hbetween hafter
  have hamount : Decimal.ofText? m.toMajor.text = some m.toMajor := by
    refine Decimal.ofText?_text fun hnegative => ?_
    have hbelow : m.minorUnits < 0 := of_decide_eq_true hnegative
    exact Int.natAbs_ne_zero.2 (Int.ne_of_lt hbelow)
  simp only [ofText, hwords, String.ofList_toList, hamount, Option.elim_some,
    Currency.ofText_code hlisted, quantize_toMajor hfits, bind, Except.bind]
  rfl

end Money

/-! ## Minimums to be spent -/

namespace Voucher

variable {voucher : Voucher} {channel : ChannelKey} {listing : VoucherListing} {minimum : Money}

/-- A purchase below the minimum is refused with a message that shows it, and what it shows is read
as the minimum, to the minor unit, with any blanks around it and between amount and code. -/
theorem minimum_ofText (total : Money) (hlisting : voucher.listing? channel = some listing)
    (hminimum : listing.minSpent = some minimum) (hfits : fitsMinor minimum.minor)
    (hlisted : minimum.currency ∈ Currency.listed) :
    (voucher.checkMinSpent total channel =
        if minimum.currency = total.currency ∧ total.minorUnits < minimum.minorUnits then
          .error (.minSpent minimum)
        else .ok ()) ∧
      (NotApplicable.minSpent minimum).message =
        "this offer is only valid for orders over " ++ minimum.majorText ∧
      Money.ofText minimum.majorText = .ok minimum ∧
      ∀ before between after : List Char, (∀ c ∈ before, Text.isBlank c) →
        (∀ c ∈ between, Text.isBlank c) → between ≠ [] → (∀ c ∈ after, Text.isBlank c) →
          Money.ofText (minimum.spaced before between after) = .ok minimum := by
  refine ⟨?_, rfl, ?_, fun before between after hbefore hbetween hne hafter =>
    Money.ofText_spaced hfits hlisted hbefore hbetween hne hafter⟩
  · simp only [checkMinSpent, hlisting, hminimum]
  · rw [Money.majorText_eq_spaced]
    exact Money.ofText_spaced hfits hlisted (List.forall_mem_nil _)
      (List.forall_mem_singleton.2 rfl) (List.cons_ne_nil _ _) (List.forall_mem_nil _)

/-- A voucher for purchases in one channel from five pence below nothing. -/
def refunding : Voucher where
  name := none
  voucherType := .entireOrder
  valueType := .fixed
  usageLimit := none
  singleUse := false
  oncePerCustomer := false
  oncePerOrder := false
  onlyForStaff := false
  minItems := none
  start := ⟨0⟩
  finish := none
  listings := [(⟨1⟩, ⟨.one, some ⟨-5, .gbp⟩⟩)]

/-- An amount below nothing whose only digit stands behind the point. -/
theorem minimum_ofText_of_pence :
    refunding.checkMinSpent ⟨-10, .gbp⟩ ⟨1⟩ = .error (.minSpent ⟨-5, .gbp⟩) ∧
      (NotApplicable.minSpent ⟨-5, .gbp⟩).message =
        "this offer is only valid for orders over -0.05 GBP" ∧
      Money.ofText "-0.05 GBP" = .ok ⟨-5, .gbp⟩ ∧
      Money.ofText "\t-0.05\u3000 GBP\n" = .ok ⟨-5, .gbp⟩ := by
  obtain ⟨hchecked, hmessage, hread, hspaced⟩ :=
    @minimum_ofText refunding ⟨1⟩ ⟨.one, some ⟨-5, .gbp⟩⟩ ⟨-5, .gbp⟩ ⟨-10, .gbp⟩ rfl rfl rfl
      (by decide)
  exact ⟨hchecked, hmessage, hread, hspaced ['\t'] ['\u3000', ' '] ['\n']
    (List.forall_mem_singleton.2 rfl)
    (List.forall_mem_cons.2 ⟨rfl, List.forall_mem_singleton.2 rfl⟩) (List.cons_ne_nil _ _)
    (List.forall_mem_singleton.2 rfl)⟩

end Voucher

end Retail
