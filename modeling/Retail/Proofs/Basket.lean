import Retail.Proofs.Order.Repricing
import Retail.Proofs.Sync.Grants
import Retail.Proofs.Sync.Winner

/-!
# Regular baskets

A basket never has more than one record of a promotion on a line, because a line is given one rule
at most, and never more than one record of an order promotion, which stands behind the other records
of the order. Every part of reconciling keeps a basket so.

## Main definitions

* `Line.Tidy`: a line with one record at most, which is of a promotion
* `Basket.Regular`: a basket of such lines, with one order promotion at most
* `DiscountRecord.SameButAmount`: records that differ in their amounts only
* `Basket.VoucherNoted`: a basket with a record for its voucher code

## Main results

* `Line.Synced.carries`: the records of a line, one for each grant
* `Basket.Regular.syncLines`, `Basket.Regular.cleared`, `Basket.Regular.kept`,
  `Basket.Regular.recharged`: what keeps a basket regular
-/

namespace Retail

/-! ## Lines -/

namespace Line

variable {book : Promotions} {language : Option String} {line line' : Line} {channel : ChannelKey}
  {now : Instant} {u : Unit}

/-- A line with one record at most, which is of a promotion. -/
structure Tidy (line : Line) : Prop where
  promotion : ∀ record ∈ line.discounts, record.kind = .promotion
  plain : ∀ record ∈ line.discounts, record.Plain
  one : line.discounts.length ≤ 1

theorem Tidy.sameRecords (h : line.Tidy) (hsame : line.SameRecords line') : line'.Tidy := by
  obtain ⟨hpromotion, hplain, hone⟩ := h
  rw [← hsame.discounts] at hpromotion hplain hone
  exact ⟨hpromotion, hplain, hone⟩

theorem tidy_of_discounts_eq_nil (h : line.discounts = []) : line.Tidy := by
  constructor <;> simp [h]

/-- A tidy line has no record of a voucher. -/
theorem Tidy.voucherRecords (h : line.Tidy) :
    line.discounts.filter (·.kind == .voucher) = [] := by
  rw [List.filter_eq_nil_iff]
  intro record hrecord
  simp [h.promotion record hrecord]

/-- A line is given one rule at most. -/
theorem rules_length_of_setCataloguePrice
    (h : (setCataloguePrice book channel now).runOn line = (.ok u, line')) :
    line'.rules.length ≤ 1 := by
  obtain ⟨_, _, _, hoffer, -, -, rfl⟩ := setCataloguePrice_eq_ok.1 h
  rcases catalogueOffer_cases hoffer with ⟨-, rfl⟩ | ⟨_, _, rfl, -⟩
  · exact Nat.zero_le 1
  · exact Nat.le_refl 1

theorem Tidy.distinct (h : line.Tidy) (hrules : line.rules.length ≤ 1) : line.Distinct := by
  refine ⟨?_, fun key => (List.length_filter_le _ _).trans h.one⟩
  match hlist : line.rules with
  | [] => exact .nil
  | [rule] => exact List.nodup_singleton _
  | _ :: _ :: _ =>
    rw [hlist] at hrules
    simp at hrules

/-- The records of a line that was brought in step are those of its grants, one for each. -/
theorem Synced.carries (h : line.Synced book language line') (htidy : line.Tidy)
    (hrules : line.rules.length ≤ 1) :
    ∃ grants, line.grants book language = .ok grants ∧ grants.length ≤ 1 ∧
      List.Forall₂ (fun terms (record : DiscountRecord) => record.Carries terms) grants
        line'.discounts := by
  obtain ⟨grants, hgrants, hcarry⟩ := h.carry
  have hlength : grants.length ≤ 1 := by
    obtain ⟨amount, -, hgranted⟩ := grants_eq_ok.1 hgrants
    split at hgranted
    · simp [hgranted]
    · rw [← (mapM_eq_ok.1 hgranted).length_eq]
      exact hrules
  have hkinds : ∀ record ∈ line'.discounts, record.kind = .promotion := by
    have hnone : line'.discounts.filter (·.kind != .promotion) = [] := by
      rw [h.others, List.filter_eq_nil_iff]
      intro record hrecord
      simp [htidy.promotion record hrecord]
    intro record hrecord
    simpa using List.filter_eq_nil_iff.1 hnone record hrecord
  refine ⟨grants, hgrants, hlength, ?_⟩
  match grants, hlength, hcarry with
  | [], _, hcarry =>
    have hnil : line'.discounts = [] := by
      rw [List.eq_nil_iff_forall_not_mem]
      intro record hrecord
      obtain ⟨terms, hterms, -⟩ := hcarry.granted record hrecord (hkinds record hrecord)
      exact absurd hterms List.not_mem_nil
    rw [hnil]
    exact .nil
  | [terms], _, hcarry =>
    obtain ⟨record, hrecord, hcarries⟩ := hcarry.carried terms (List.mem_singleton_self _)
    have hall : line'.discounts.filter (·.isOf terms.rule) = line'.discounts := by
      refine List.filter_eq_self.2 fun other hother => DiscountRecord.isOf_iff.2 ?_
      obtain ⟨_, hgranted, hrule⟩ := hcarry.granted other hother (hkinds other hother)
      exact ⟨hkinds other hother, List.mem_singleton.1 hgranted ▸ hrule⟩
    rw [← hall, hrecord]
    exact .cons hcarries .nil
  | _ :: _ :: _, hlength, _ => simp at hlength

theorem Synced.tidy (h : line.Synced book language line') (htidy : line.Tidy)
    (hrules : line.rules.length ≤ 1) : line'.Tidy := by
  obtain ⟨grants, -, hlength, hcarries⟩ := h.carries htidy hrules
  refine ⟨fun record hrecord => ?_, h.plain htidy.plain, hcarries.length_eq ▸ hlength⟩
  by_contra hkind
  have hmem : record ∈ line'.discounts.filter (·.kind != .promotion) :=
    List.mem_filter.2 ⟨hrecord, by simpa using hkind⟩
  rw [h.others] at hmem
  obtain ⟨hmem, hother⟩ := List.mem_filter.1 hmem
  simp [htidy.promotion record hmem] at hother

end Line

/-! ## Records that differ in their amounts -/

/-- The records differ in their amounts at most. -/
def DiscountRecord.SameButAmount (a b : DiscountRecord) : Prop := b = { a with amount := b.amount }

section Amounts

variable {records records' : List DiscountRecord}

theorem DiscountRecord.SameButAmount.kind {a b : DiscountRecord} (h : a.SameButAmount b) :
    b.kind = a.kind := by
  rw [h]

theorem DiscountRecord.SameButAmount.trans {a b c : DiscountRecord} (h : a.SameButAmount b)
    (h' : b.SameButAmount c) : a.SameButAmount c := by
  rw [SameButAmount, h', h]

/-- Selecting records by their kinds does not look at amounts. -/
theorem forall₂_filter_kind (p : DiscountKind → Bool)
    (h : List.Forall₂ DiscountRecord.SameButAmount records records') :
    List.Forall₂ DiscountRecord.SameButAmount (records.filter (p ·.kind))
      (records'.filter (p ·.kind)) := by
  induction h with
  | nil => exact .nil
  | @cons a b _ _ hsame _ ih =>
    have hb : p b.kind = p a.kind := by rw [hsame.kind]
    simp only [List.filter_cons, hb]
    split
    · exact .cons hsame ih
    · exact ih

theorem PromotionsLast.of_map_kind (hlast : PromotionsLast records)
    (h : records'.map (·.kind) = records.map (·.kind)) : PromotionsLast records' := by
  have hpairwise : ∀ records : List DiscountRecord, PromotionsLast records ↔
      (records.map (·.kind)).Pairwise fun a b => a = .orderPromotion → b = .orderPromotion := by
    intro records
    rw [PromotionsLast, List.pairwise_map]
  rw [hpairwise] at hlast ⊢
  rwa [h]

theorem PromotionsLast.sameButAmount (hlast : PromotionsLast records)
    (h : List.Forall₂ DiscountRecord.SameButAmount records records') : PromotionsLast records' :=
  hlast.of_map_kind (map_eq_of_forall₂ h fun _ _ hsame => hsame.kind.symm).symm

end Amounts

/-! ## Baskets -/

namespace Basket

variable {basket basket' : Basket} {book : Promotions} {terms : PromotionTerms}

/-- A basket with one record at most on each line and for the order promotion, which comes last. -/
structure Regular (basket : Basket) : Prop where
  lines : ∀ line ∈ basket.lines, line.Tidy
  kinds : ∀ record ∈ basket.discounts, record.kind ≠ .promotion
  last : PromotionsLast basket.discounts
  one : basket.orderPromotions.length ≤ 1
  plain : ∀ record ∈ basket.orderPromotions, record.Plain

theorem Regular.discounts_eq (h : basket.Regular) :
    basket.discounts = basket.otherDiscounts ++ basket.orderPromotions :=
  h.last.eq

theorem Regular.of_eq (h : basket.Regular) (hlines : ∀ line ∈ basket'.lines, line.Tidy)
    (hdiscounts : basket'.discounts = basket.discounts) : basket'.Regular := by
  obtain ⟨-, hkinds, hlast, hone, hplain⟩ := h
  rw [orderPromotions, ← hdiscounts] at hone hplain
  rw [← hdiscounts] at hkinds hlast
  exact ⟨hlines, hkinds, hlast, hone, hplain⟩

theorem forall_tidy {lines lines' : List Line}
    (h : List.Forall₂ Line.SameRecords lines lines') (htidy : ∀ line ∈ lines, line.Tidy) :
    ∀ line ∈ lines', line.Tidy := by
  intro line hline
  obtain ⟨source, hsource, hsame⟩ := exists_left_of_forall₂ h hline
  exact (htidy source hsource).sameRecords hsame

theorem Regular.synced {lines : List Line} (h : basket.Regular)
    (hsynced : List.Forall₂ (Line.Synced book basket.language) basket.lines lines)
    (hrules : ∀ line ∈ basket.lines, line.rules.length ≤ 1) :
    Regular { basket with lines } := by
  refine h.of_eq (fun line hline => ?_) rfl
  obtain ⟨source, hsource, hsync⟩ := exists_left_of_forall₂ hsynced hline
  exact hsync.tidy (h.lines source hsource) (hrules source hsource)

theorem Regular.cleared (h : basket.Regular) : basket.cleared.Regular := by
  have hnone := basket.orderPromotions_cleared
  refine ⟨h.lines, fun record hrecord => h.kinds record (List.mem_filter.1 hrecord).1,
    List.Pairwise.filter _ h.last, ?_, ?_⟩
  · simp [hnone]
  · simp [hnone]

theorem Regular.kept {record : DiscountRecord} (h : basket.Regular)
    (hkept : Kept terms basket basket' record) : basket'.Regular := by
  have hkind : record.kind = .orderPromotion := by
    have hmem : record ∈ basket'.orderPromotions := hkept.orderPromotions ▸ List.mem_cons_self
    simpa using (List.mem_filter.1 hmem).2
  have hplain : record.Plain := by
    cases hfirst : basket.orderPromotions with
    | nil =>
      rw [DiscountRecord.plain_iff, (hkept.created hfirst).1]
      exact ⟨rfl, rfl⟩
    | cons first extras =>
      have horigin := Discount.sameOrigin_sync first.toDiscount terms
      obtain ⟨hvoucher, hcode⟩ := h.plain first (hfirst ▸ List.mem_cons_self)
      rw [hkept.synced first (hfirst ▸ rfl)]
      exact ⟨horigin.voucher.trans hvoucher, horigin.voucherCode.trans hcode⟩
  refine ⟨?_, fun other hother => ?_, hkept.last h.last, ?_, ?_⟩
  · rw [hkept.eq]
    exact h.lines
  · rw [(hkept.last h.last).eq, ← otherDiscounts, ← orderPromotions, hkept.orderPromotions,
      hkept.otherDiscounts, List.mem_append, List.mem_singleton] at hother
    rcases hother with hother | rfl
    · exact h.kinds other (List.mem_filter.1 hother).1
    · simp [hkind]
  · simp [hkept.orderPromotions]
  · rw [hkept.orderPromotions, List.forall_mem_singleton]
    exact hplain

/-- Amounts of the records and what is charged for the lines do not matter. -/
theorem Regular.recharged (h : basket.Regular)
    (hlines : List.Forall₂ Line.Recharged basket.lines basket'.lines)
    (hdiscounts : List.Forall₂ DiscountRecord.SameButAmount basket.discounts basket'.discounts) :
    basket'.Regular := by
  have hops : List.Forall₂ DiscountRecord.SameButAmount basket.orderPromotions
      basket'.orderPromotions :=
    forall₂_filter_kind (· == .orderPromotion) hdiscounts
  refine ⟨forall_tidy (hlines.imp fun _ _ => Line.Recharged.sameRecords) h.lines,
    fun record hrecord => ?_, h.last.sameButAmount hdiscounts, hops.length_eq ▸ h.one,
    fun record hrecord => ?_⟩
  · obtain ⟨source, hsource, hsame⟩ := exists_left_of_forall₂ hdiscounts hrecord
    rw [hsame.kind]
    exact h.kinds source hsource
  · obtain ⟨source, hsource, hsame⟩ := exists_left_of_forall₂ hops hrecord
    obtain ⟨hvoucher, hcode⟩ := h.plain source hsource
    rw [hsame]
    exact ⟨hvoucher, hcode⟩

/-! Vouchers are known by their codes and by their records. -/

/-- The basket has a voucher code exactly when it has a record of a voucher. -/
def VoucherNoted (basket : Basket) : Prop :=
  basket.voucherCode.isSome ↔ ∃ record ∈ basket.discounts, record.kind = .voucher

/-- Order promotions and amounts do not matter. -/
theorem VoucherNoted.congr (h : basket.VoucherNoted)
    (hcode : basket'.voucherCode = basket.voucherCode)
    (hothers : List.Forall₂ DiscountRecord.SameButAmount basket.otherDiscounts
      basket'.otherDiscounts) : basket'.VoucherNoted := by
  have hvoucher : ∀ basket : Basket, (∃ record ∈ basket.discounts, record.kind = .voucher) ↔
      ∃ record ∈ basket.otherDiscounts, record.kind = .voucher := by
    intro basket
    refine exists_congr fun record => and_congr_left fun hkind => ?_
    rw [otherDiscounts, List.mem_filter, and_iff_left]
    simp [hkind]
  rw [VoucherNoted, hvoucher] at h ⊢
  rw [hcode, h]
  constructor
  · rintro ⟨record, hrecord, hkind⟩
    obtain ⟨other, hother, hsame⟩ := exists_right_of_forall₂ hothers hrecord
    exact ⟨other, hother, hsame.kind.trans hkind⟩
  · rintro ⟨other, hother, hkind⟩
    obtain ⟨record, hrecord, hsame⟩ := exists_left_of_forall₂ hothers hother
    exact ⟨record, hrecord, hsame.kind.symm.trans hkind⟩

end Basket

end Retail
