import Mathlib.Data.List.TakeWhile
import Retail.Decimal.Reader

/-!
# Decimals in writing

A decimal is written with every digit of its scale, also where these are zeros, so its written form
is read as the same decimal and not only as one of the same value. The reader has rules for numbers
that are too long; a decimal that was written is not, since it had room for all of its digits.

## Main definitions

* `Decimal.Scan.extend`: what was read before some digits and what is read after them

## Main results

* `Decimal.Scan.run_append`: digits that there is room for
* `Decimal.Scan.run_pointedDigits`: the digits of a decimal with their point
* `Decimal.ofText?_text`: the written form is read as the decimal
-/

namespace Retail

namespace Decimal

variable {c : Char} {digits rest : List Char} {width scale n : Nat}

/-! ## Digits -/

theorem digitValue?_of_isDigit (h : c.isDigit) : digitValue? c = some (c.toNat - '0'.toNat) := by
  have hrange : '0' ≤ c ∧ c ≤ '9' := by
    simpa [Char.isDigit, Char.le_def] using h
  rw [digitValue?, if_pos hrange]

theorem ne_of_isDigit {other : Char} (h : c.isDigit) (hother : other.isDigit = false) :
    c ≠ other := by
  rintro rfl
  exact Bool.false_ne_true (hother.symm.trans h)

theorem isDigit_of_mem_paddedDigits (h : c ∈ paddedDigits width n) : c.isDigit := by
  rcases List.mem_append.1 h with hpad | hdigit
  · obtain rfl := List.eq_of_mem_replicate hpad
    decide
  · exact Nat.isDigit_of_mem_toDigits (by decide) (by decide) hdigit

theorem le_length_paddedDigits : width ≤ (paddedDigits width n).length := by
  simp only [paddedDigits, List.length_append, List.length_replicate]
  omega

/-- Zeros in front of a number do not count. -/
theorem ofDigitChars_paddedDigits : Nat.ofDigitChars 10 (paddedDigits width n) 0 = n := by
  rw [paddedDigits, Nat.ofDigitChars_append, Nat.ofDigitChars_replicate_zero, Nat.mul_zero,
    Nat.ofDigitChars_ten_toDigits]

theorem le_ofDigitChars (value : Nat) : value ≤ Nat.ofDigitChars 10 digits value := by
  induction digits generalizing value with
  | nil => exact Nat.le_refl value
  | cons first digits ih =>
    rw [Nat.ofDigitChars_cons]
    exact Nat.le_trans (by omega) (ih _)

/-- The digits of a number, divided where the point stands. -/
theorem exists_pointedDigits (scale n : Nat) : ∃ whole decimals : List Char,
    pointedDigits scale n = (if scale == 0 then whole else whole ++ '.' :: decimals) ∧
      whole ≠ [] ∧ decimals.length = scale ∧ (∀ c ∈ whole, c.isDigit) ∧
      (∀ c ∈ decimals, c.isDigit) ∧
      Nat.ofDigitChars 10 decimals (Nat.ofDigitChars 10 whole 0) = n := by
  have hlength : scale + 1 ≤ (paddedDigits (scale + 1) n).length := le_length_paddedDigits
  refine ⟨_, _, rfl, ?_, ?_, fun c hc => isDigit_of_mem_paddedDigits (List.mem_of_mem_take hc),
    fun c hc => isDigit_of_mem_paddedDigits (List.mem_of_mem_drop hc), ?_⟩
  · rw [← List.length_pos_iff, List.length_take]
    omega
  · rw [List.length_drop]
    omega
  · rw [← Nat.ofDigitChars_append, List.take_append_drop, ofDigitChars_paddedDigits]

theorem isDigit_or_point_of_mem (h : c ∈ pointedDigits scale n) : c.isDigit ∨ c = '.' := by
  obtain ⟨whole, decimals, htext, -, -, hwhole, hdecimals, -⟩ := exists_pointedDigits scale n
  rw [htext] at h
  split at h
  · exact .inl (hwhole c h)
  · rcases List.mem_append.1 h with h | h
    · exact .inl (hwhole c h)
    · rcases List.mem_cons.1 h with h | h
      · exact .inr h
      · exact .inl (hdecimals c h)

/-- A digit comes first, so there is no second sign. -/
theorem exists_pointedDigits_eq_cons (scale n : Nat) :
    ∃ first rest, pointedDigits scale n = first :: rest ∧ first.isDigit := by
  obtain ⟨whole, decimals, htext, hne, -, hwhole, -, -⟩ := exists_pointedDigits scale n
  obtain ⟨first, whole, rfl⟩ := List.exists_cons_of_ne_nil hne
  rw [htext]
  split
  · exact ⟨first, whole, rfl, hwhole first List.mem_cons_self⟩
  · exact ⟨first, whole ++ '.' :: decimals, rfl, hwhole first List.mem_cons_self⟩

/-! ## Reading digits -/

namespace Scan

variable {s : Scan}

/-- What has been read after these digits as well. -/
def extend (s : Scan) (digits : List Char) : Scan where
  value := Nat.ofDigitChars 10 digits s.value
  scale := if s.pointed then s.scale + digits.length else s.scale
  pointed := s.pointed
  started := s.started || !digits.isEmpty

/-- One digit that there is room for. -/
theorem run_cons_of_isDigit (hdigit : c.isDigit)
    (hvalue : s.value * 10 + (c.toNat - '0'.toNat) < limit)
    (hplaces : s.pointed → s.scale < maxScale) (hwhole : s.pointed = false → s.scale = 0) :
    s.run (c :: rest) = (s.extend [c]).run rest := by
  have hfree : (s.pointed && s.scale == maxScale) = false := by
    rw [Bool.and_eq_false_imp]
    exact fun hpointed => beq_false_of_ne (Nat.ne_of_lt (hplaces hpointed))
  rw [run, hfree, if_neg Bool.false_ne_true, digitValue?_of_isDigit hdigit]
  dsimp only
  rw [if_pos hvalue]
  cases hpointed : s.pointed with
  | false => simp [extend, hpointed, hwhole hpointed, Nat.ofDigitChars_cons, Nat.mul_comm]
  | true => simp [extend, hpointed, Nat.ofDigitChars_cons, Nat.mul_comm]

theorem extend_cons : s.extend (c :: digits) = (s.extend [c]).extend digits := by
  cases hpointed : s.pointed <;>
    simp [extend, hpointed, Nat.ofDigitChars_cons, Nat.add_assoc, Nat.add_comm 1]

/-- Digits that there is room for are read one after the other. Before the point the scale of the
scan is zero. -/
theorem run_append (hdigits : ∀ c ∈ digits, c.isDigit)
    (hvalue : Nat.ofDigitChars 10 digits s.value < limit)
    (hplaces : s.pointed → s.scale + digits.length ≤ maxScale)
    (hwhole : s.pointed = false → s.scale = 0) :
    s.run (digits ++ rest) = (s.extend digits).run rest := by
  induction digits generalizing s with
  | nil => simp [extend, Nat.ofDigitChars_nil]
  | cons first digits ih =>
    obtain ⟨hfirst, hdigits⟩ := List.forall_mem_cons.1 hdigits
    simp only [List.length_cons] at hplaces
    rw [Nat.ofDigitChars_cons, Nat.mul_comm] at hvalue
    -- What the first digit makes of the value is no more than what all of them make of it.
    have hroom : s.value * 10 + (first.toNat - '0'.toNat) < limit :=
      Nat.lt_of_le_of_lt (le_ofDigitChars _) hvalue
    calc s.run (first :: digits ++ rest)
        = (s.extend [first]).run (digits ++ rest) :=
          run_cons_of_isDigit hfirst hroom (fun hpointed => by have := hplaces hpointed; omega)
            hwhole
      _ = ((s.extend [first]).extend digits).run rest := by
          refine ih hdigits ?_ ?_ ?_
          · simpa [extend, Nat.ofDigitChars_cons, Nat.mul_comm] using hvalue
          · intro (hpointed : s.pointed)
            have := hplaces hpointed
            simp only [extend, hpointed, if_true, List.length_singleton]
            omega
          · intro (hpointed : s.pointed = false)
            simp [extend, hpointed, hwhole hpointed]
      _ = (s.extend (first :: digits)).run rest := by rw [← extend_cons]

end Scan

/-- The digits of a decimal with their point are read as its magnitude and its scale. -/
theorem Scan.run_pointedDigits (hvalue : n < limit) (hscale : scale ≤ maxScale) :
    start.run (pointedDigits scale n) = some (n, scale) := by
  obtain ⟨whole, decimals, htext, hne, hlength, hwhole, hdecimals, hnumber⟩ :=
    exists_pointedDigits scale n
  have hstarted : (start.extend whole).started := by
    simp [extend, hne]
  have hread (rest : List Char) :
      start.run (whole ++ rest) = (start.extend whole).run rest := by
    refine run_append hwhole (Nat.lt_of_le_of_lt ?_ hvalue) (fun h => nomatch h) fun _ => rfl
    rw [← hnumber]
    exact le_ofDigitChars _
  rw [htext]
  split
  case isTrue hzero =>
    obtain rfl : scale = 0 := beq_iff_eq.1 hzero
    obtain rfl : decimals = [] := List.length_eq_zero_iff.1 hlength
    rw [← List.append_nil whole, hread, run, finish, if_pos hstarted, ← hnumber]
    rfl
  case isFalse hzero =>
    have hpoint (rest : List Char) : (start.extend whole).run ('.' :: rest) =
        ({ start.extend whole with pointed := true } : Scan).run rest := rfl
    rw [hread, hpoint, ← List.append_nil decimals, run_append hdecimals ?_ ?_ ?_, run, finish,
      if_pos (by simp [extend, hne]), ← hnumber, ← hlength]
    · simp [extend, start]
    · rwa [← hnumber] at hvalue
    · intro _
      rw [hlength]
      simpa [extend, start] using hscale
    · exact fun h => nomatch h

/-! ## The written form -/

variable {d : Decimal}

theorem ofParts?_mantissa (hsign : d.negative → d.magnitude ≠ 0) :
    ofParts? d.mantissa d.scale = some d := by
  have hnegative : decide (d.mantissa < 0) = d.negative := by
    unfold mantissa
    cases hd : d.negative with
    | true => simpa [Nat.pos_iff_ne_zero] using hsign hd
    | false => simp
  rw [ofParts?, hnegative, natAbs_mantissa]
  exact dif_pos ⟨d.magnitude_lt, d.scale_le⟩

/-- Only the digits that follow the sign are left to the scan. -/
theorem ofPlain?_text (hsign : d.negative → d.magnitude ≠ 0) :
    ofPlain? d.text.toList = some d := by
  have hscan : Scan.start.run (pointedDigits d.scale d.magnitude) = some (d.magnitude, d.scale) :=
    Scan.run_pointedDigits d.magnitude_lt d.scale_le
  have hparts := ofParts?_mantissa hsign
  rw [text, String.toList_ofList]
  cases hnegative : d.negative with
  | true =>
    simp only [mantissa, hnegative, if_true] at hparts
    simp only [if_true, List.singleton_append, ofPlain?, hscan, Option.bind_some, hparts]
  | false =>
    obtain ⟨first, rest, htext, hfirst⟩ := exists_pointedDigits_eq_cons d.scale d.magnitude
    simp only [mantissa, hnegative, if_neg Bool.false_ne_true] at hparts
    rw [if_neg Bool.false_ne_true, List.nil_append]
    rw [htext] at hscan ⊢
    unfold ofPlain?
    split
    · exact absurd (List.cons.inj ‹_›).1 (ne_of_isDigit hfirst rfl)
    · exact absurd (List.cons.inj ‹_›).1 (ne_of_isDigit hfirst rfl)
    · rw [hscan]
      exact hparts

theorem mem_text (h : c ∈ d.text.toList) : c.isDigit ∨ c = '.' ∨ c = '-' := by
  rw [text, String.toList_ofList] at h
  rcases List.mem_append.1 h with hminus | hdigits
  · split at hminus
    · exact .inr (.inr (List.mem_singleton.1 hminus))
    · exact nomatch hminus
  · rcases isDigit_or_point_of_mem hdigits with hdigit | hpoint
    · exact .inl hdigit
    · exact .inr (.inl hpoint)

/-- The written form of a decimal is read as this decimal, unless it is a zero with a sign. -/
theorem ofText?_text (hsign : d.negative → d.magnitude ≠ 0) : ofText? d.text = some d := by
  have hunmarked : d.text.toList.dropWhile (fun c => !(c == 'e' || c == 'E')) = [] := by
    rw [List.dropWhile_eq_nil_iff]
    intro c hc
    rcases mem_text hc with hdigit | rfl | rfl
    · have he : c ≠ 'e' := ne_of_isDigit hdigit rfl
      have hE : c ≠ 'E' := ne_of_isDigit hdigit rfl
      simp [he, hE]
    · rfl
    · rfl
  unfold ofText?
  dsimp only
  rw [hunmarked]
  exact ofPlain?_text hsign

end Decimal

end Retail
