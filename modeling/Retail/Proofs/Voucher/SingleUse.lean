import Retail.Proofs.Voucher.Sequence

/-!
# Codes of a single use

A code of a single-use voucher is closed when it is redeemed, and a closed code is not found. It is
still redeemed by a client that found it before, unless a limit of one use stops that client:
whether a code is closed matters to those who look it up only.

## Main definitions

* `Vouchers.Event.Finds`, `Vouchers.Event.Redeems`, `Vouchers.Event.Releases`: what a client did
  with a code
* `Vouchers.LookedUp`: clients redeem codes that they have found
* `Vouchers.Spent`: a code that is closed after a use

## Main results

* `Vouchers.Leads.spent`: a code stays closed until it is released
* `Vouchers.Served.released_or_found_before`: between two uses of a code it is released, or else the
  second client had found it before the first use
-/

namespace Retail

namespace Vouchers

variable {Client : Type} {book book' start : Vouchers} {key : CodeKey} {code : VoucherCode}
  {voucher : VoucherKey} {terms : Voucher} {events : List (Event Client)} {event : Event Client}

/-! ## What clients do -/

/-- A client looked up a code and found it. -/
def Event.Finds (event : Event Client) (key : CodeKey) : Prop :=
  (∃ text channel now, event.request = .find text channel now) ∧ event.outcome = .ok (.code key)

/-- A client redeemed a voucher through a code. -/
def Event.Redeems (event : Event Client) (voucher : VoucherKey) (key : CodeKey) : Prop :=
  (∃ email track, event.request = .redeem voucher key email track) ∧ event.outcome = .ok .done

/-- A client released a code. -/
def Event.Releases (event : Event Client) (key : CodeKey) : Prop :=
  (∃ voucher email, event.request = .release (some key) voucher email) ∧ event.outcome = .ok .done

/-- Each client asks to redeem only codes that it has found before. -/
def LookedUp (events : List (Event Client)) : Prop :=
  ∀ before event after voucher key email track, events = before ++ event :: after →
    event.request = .redeem voucher key email track →
    ∃ lookup ∈ before, lookup.client = event.client ∧ lookup.Finds key

/-- Where nobody asks to redeem anything, nothing has to be found. -/
theorem lookedUp_of_not_redeem (h : ∀ event ∈ events, ∀ voucher key email track,
    event.request ≠ .redeem voucher key email track) : LookedUp events := by
  rintro before event after voucher key email track rfl hrequest
  exact absurd hrequest (h event (List.mem_append_cons_self) voucher key email track)

/-- A client that has found a code asks to redeem it. -/
theorem LookedUp.redeem {client : Client} {email : String} {track : Bool}
    {outcome : Except VoucherError Answer} (h : LookedUp events)
    (hfound : ∃ lookup ∈ events, lookup.client = client ∧ lookup.Finds key) :
    LookedUp (events ++ [⟨client, .redeem voucher key email track, outcome⟩]) := by
  intro before event after _ other _ _ hsplit hrequest
  rcases after.eq_nil_or_concat' with rfl | ⟨after, last, rfl⟩
  · obtain ⟨rfl, hlast⟩ := List.append_inj' hsplit rfl
    obtain rfl := (List.cons.inj hlast).1
    obtain ⟨-, rfl, -, -⟩ := Request.redeem.inj hrequest
    exact hfound
  · rw [← List.cons_append, ← List.append_assoc] at hsplit
    obtain ⟨hevents, -⟩ := List.append_inj' hsplit rfl
    exact h before event after _ other _ _ hevents hrequest

/-! ## Closed codes -/

/-- The code of a voucher is closed, and a use of it is counted where uses are limited. -/
def Spent (book : Vouchers) (terms : Voucher) (key : CodeKey) : Prop :=
  ∃ code, book.codes.get? key = some code ∧ book.vouchers.get? code.voucher = some terms ∧
    code.isActive = false ∧ (terms.limit?.isSome → 0 < code.used)

/-- A redemption closes the code of a single-use voucher. -/
theorem spent_redeemed {email : String} {track : Bool}
    (hterms : book.vouchers.get? voucher = some terms) (hsingle : terms.singleUse)
    (hfits : ∀ code, book.codes.get? key = some code → code.voucher = voucher)
    (haccepts : book.Accepts terms key email track) :
    (book.redeemed terms key email track).Spent terms key := by
  obtain ⟨code, hcode⟩ := Option.isSome_iff_exists.1 (haccepts.code hsingle)
  refine ⟨code.redeemed terms, ?_, ?_, ?_, ?_⟩
  · rw [redeemed, Registry.get?_modify, if_pos rfl, hcode, Option.map_some]
  · exact (congrArg book.vouchers.get? (hfits code hcode)).trans hterms
  · simp [VoucherCode.redeemed, VoucherCode.switched, hsingle]
  · intro hlimit
    simp [VoucherCode.redeemed, VoucherCode.switched, VoucherCode.counted, hlimit]

/-- Only a release opens a closed code. -/
theorem Spent.effect (h : book.Spent terms key) (hsingle : terms.singleUse)
    (hfits : event.request.Fits book) (heffect : event.request.Effect book event.outcome book')
    (hkept : ¬event.Releases key) : book'.Spent terms key := by
  obtain ⟨client, request, outcome⟩ := event
  have ⟨code, hcode, hterms, hclosed, hcounted⟩ := h
  cases heffect with
  | refused | find | validate | releaseNothing => exact h
  | addVoucher => exact ⟨code, hcode, Registry.get?_push_of_eq_some hterms, hclosed, hcounted⟩
  | addCode entered =>
    obtain ⟨-, -, -, rfl⟩ := addCode_eq_ok.1 entered
    exact ⟨code, Registry.get?_push_of_eq_some hcode, hterms, hclosed, hcounted⟩
  | @redeem _ terms' other _ _ known accepts =>
    by_cases hsame : other = key
    · subst hsame
      obtain rfl : terms' = terms := by
        rw [hfits code hcode, known] at hterms
        exact Option.some.inj hterms
      exact spent_redeemed known hsingle hfits accepts
    · refine ⟨code, ?_, hterms, hclosed, hcounted⟩
      rw [redeemed, Registry.get?_modify, if_neg (Ne.symm hsame), hcode]
  | @release other =>
    have hother : key ≠ other := by
      rintro rfl
      exact hkept ⟨⟨_, _, rfl⟩, rfl⟩
    refine ⟨code, ?_, hterms, hclosed, hcounted⟩
    rw [released, Registry.get?_modify, if_neg hother, hcode]

/-- A closed code is not found. -/
theorem Spent.not_finds (h : book.Spent terms key)
    (heffect : event.request.Effect book event.outcome book') : ¬event.Finds key := by
  obtain ⟨client, request, outcome⟩ := event
  rintro ⟨⟨text, channel, now, rfl⟩, rfl⟩
  obtain ⟨code, hcode, -, hclosed, -⟩ := h
  cases heffect with
  | find usable =>
    unfold usableCode at usable
    cases hfound : (book.findCode? text).filter fun key =>
        (book.codes.get? key).any fun code =>
          code.isActive && (book.vouchers.get? code.voucher).any (·.isActiveIn channel now) with
    | none => simp [hfound] at usable
    | some found =>
      obtain rfl : found = key := by simpa [hfound] using usable
      have hopen := (Option.filter_eq_some_iff.1 hfound).2
      simp [hcode, hclosed] at hopen

/-- A code stays closed until it is released, and nobody finds it. -/
theorem Leads.spent (h : Leads start events book) (hspent : start.Spent terms key)
    (hsingle : terms.singleUse) (hkept : ∀ event ∈ events, ¬event.Releases key) :
    book.Spent terms key ∧ ∀ event ∈ events, ¬event.Finds key := by
  -- Induction on the requests; each of them finds the code closed and leaves it so.
  induction h using Leads.effect_induction with
  | nil => exact ⟨hspent, List.forall_mem_nil _⟩
  | snoc _ _ _ _ _ _ hfits heffect ih =>
    rw [List.forall_mem_append, List.forall_mem_singleton] at hkept ⊢
    obtain ⟨hbook, hfound⟩ := ih hkept.1
    exact ⟨hbook.effect hsingle hfits heffect hkept.2, hfound, hbook.not_finds heffect⟩

/-! ## Two uses of one code -/

/-- Between two uses of a code of a single-use voucher the code was released, or else the client
that used it for the second time had found it before the first use, nobody has found it since then,
and the voucher does not limit the uses of a code to one. -/
theorem Served.released_or_found_before {before between : List (Event Client)}
    {first second : Event Client} (h : Served (before ++ first :: between ++ [second]) book)
    (hlooked : LookedUp (before ++ first :: between ++ [second]))
    (hcode : book.codes.get? key = some code)
    (hterms : book.vouchers.get? code.voucher = some terms) (hsingle : terms.singleUse)
    (hfirst : first.Redeems code.voucher key) (hsecond : second.Redeems code.voucher key) :
    (∃ event ∈ between, event.Releases key) ∨
      (∃ lookup ∈ before, lookup.client = second.client ∧ lookup.Finds key) ∧
        (∀ event ∈ between, ¬event.Finds key) ∧
        ∀ limit, terms.usageLimit = some limit → 0 < limit → 1 < limit := by
  by_cases hreleased : ∃ event ∈ between, event.Releases key
  · exact .inl hreleased
  have hkept : ∀ event ∈ between, ¬event.Releases key := fun event hmem hrelease =>
    hreleased ⟨event, hmem, hrelease⟩
  obtain ⟨firstClient, _, _⟩ := first
  obtain ⟨secondClient, _, _⟩ := second
  obtain ⟨⟨email, track, rfl⟩, rfl⟩ := hfirst
  obtain ⟨⟨email', track', rfl⟩, rfl⟩ := hsecond
  obtain ⟨found, hserved, -, hsecond⟩ := h.exists_of_snoc
  rw [List.append_cons] at hserved
  obtain ⟨opened, hopened, hbetween⟩ := hserved.exists_leads
  obtain ⟨initial, -, hfits, hfirst⟩ := hopened.exists_of_snoc
  cases hfirst with
  | @redeem _ firstTerms _ _ _ hfirstTerms hfirstAccepts =>
  cases hsecond with
  | @redeem _ secondTerms _ _ _ hsecondTerms hsecondAccepts =>
  obtain rfl : secondTerms = terms := Option.some.inj (hsecondTerms.symm.trans hterms)
  obtain rfl : firstTerms = secondTerms :=
    Option.some.inj ((hbetween.extends.vouchers _ _ hfirstTerms).symm.trans hsecondTerms)
  have hspent := spent_redeemed hfirstTerms hsingle hfits hfirstAccepts
  obtain ⟨⟨spent, hspentCode, -, -, hcounted⟩, hunfound⟩ := hbetween.spent hspent hsingle hkept
  refine .inr ⟨?_, hunfound, fun limit hlimit hpos => ?_⟩
  · obtain ⟨lookup, hmem, hclient, hfinds⟩ := hlooked _ _ [] _ key email' track' rfl rfl
    rcases List.mem_append.1 hmem with hmem | hmem
    · exact ⟨lookup, hmem, hclient, hfinds⟩
    rcases List.mem_cons.1 hmem with rfl | hmem
    · obtain ⟨⟨_, _, _, hrequest⟩, -⟩ := hfinds
      exact nomatch hrequest
    · exact absurd hfinds (hunfound lookup hmem)
  · have hlimit := Voucher.limit?_eq_some.2 ⟨hlimit, hpos⟩
    obtain ⟨found, hfoundCode, hroom⟩ := hsecondAccepts.room limit hlimit
    obtain rfl : spent = found := Option.some.inj (hspentCode.symm.trans hfoundCode)
    have hused : 0 < spent.used := hcounted (hlimit ▸ rfl)
    omega

/-- A voucher of which each code may be used once, without a limit of uses. -/
def gift : Voucher where
  name := none
  voucherType := .entireOrder
  valueType := .percentage
  usageLimit := none
  singleUse := true
  oncePerCustomer := false
  oncePerOrder := false
  onlyForStaff := false
  minItems := none
  start := ⟨0⟩
  finish := none
  listings := [(⟨1⟩, ⟨.hundred, none⟩)]

/-- Two clients find the code of a gift. -/
def giftLookups : List (Event String) :=
  [⟨"shop", .addVoucher gift, .ok (.voucher ⟨1⟩)⟩,
    ⟨"shop", .addCode ⟨1⟩ "GIFT", .ok (.code ⟨1⟩)⟩,
    ⟨"a", .find "GIFT" ⟨1⟩ ⟨0⟩, .ok (.code ⟨1⟩)⟩,
    ⟨"b", .find "GIFT" ⟨1⟩ ⟨0⟩, .ok (.code ⟨1⟩)⟩]

/-- The book with the gift, whose code nobody has used. -/
def giftBook : Vouchers :=
  ⟨Registry.empty.push gift, Registry.empty.push ⟨⟨1⟩, "GIFT", 0, true⟩, [("GIFT", ⟨1⟩)], []⟩

theorem served_giftLookups : Served giftLookups giftBook :=
  have hopened := (Served.nil.snoc "shop" (.addVoucher gift) trivial).snoc "shop"
    (.addCode ⟨1⟩ "GIFT") trivial
  (hopened.snoc "a" (.find "GIFT" ⟨1⟩ ⟨0⟩) trivial).snoc "b" (.find "GIFT" ⟨1⟩ ⟨0⟩) trivial

/-- After both have found it, both redeem it. -/
theorem exists_gift_redeemed_twice : ∃ (first second : Event String) (book : Vouchers),
    Served (giftLookups ++ first :: [] ++ [second]) book ∧
    LookedUp (giftLookups ++ first :: [] ++ [second]) ∧
    book.codes.get? ⟨1⟩ = some ⟨⟨1⟩, "GIFT", 0, false⟩ ∧ book.vouchers.get? ⟨1⟩ = some gift ∧
    first.Redeems ⟨1⟩ ⟨1⟩ ∧ second.Redeems ⟨1⟩ ⟨1⟩ := by
  have hfits {active : Bool} {code : VoucherCode}
      (h : some (VoucherCode.mk ⟨1⟩ "GIFT" 0 active) = some code) : code.voucher = ⟨1⟩ :=
    Option.some.inj h ▸ rfl
  have hfirst := served_giftLookups.snoc "a" (.redeem ⟨1⟩ ⟨1⟩ "a@x" false) fun _ => hfits
  have hsecond := hfirst.snoc "b" (.redeem ⟨1⟩ ⟨1⟩ "b@x" false) fun _ => hfits
  have hlooked : LookedUp giftLookups := lookedUp_of_not_redeem (by simp [giftLookups])
  refine ⟨_, _, _, hsecond, (hlooked.redeem ?_).redeem ?_, rfl, rfl,
    ⟨⟨_, _, rfl⟩, rfl⟩, ⟨⟨_, _, rfl⟩, rfl⟩⟩
  · exact ⟨giftLookups[2], by simp [giftLookups], rfl, ⟨_, _, _, rfl⟩, rfl⟩
  · exact ⟨giftLookups[3], by simp [giftLookups], rfl, ⟨_, _, _, rfl⟩, rfl⟩

/-- The second client had found the gift before the first use. -/
theorem found_before_gift_redeemed : ∃ (first second : Event String) (book : Vouchers),
    Served (giftLookups ++ first :: [] ++ [second]) book ∧ first.Redeems ⟨1⟩ ⟨1⟩ ∧
    second.Redeems ⟨1⟩ ⟨1⟩ ∧
    ∃ lookup ∈ giftLookups, lookup.client = second.client ∧ lookup.Finds ⟨1⟩ := by
  obtain ⟨first, second, book, hserved, hlooked, hcode, hterms, hfirst, hsecond⟩ :=
    exists_gift_redeemed_twice
  rcases hserved.released_or_found_before hlooked hcode hterms rfl hfirst hsecond with
    ⟨_, hmem, -⟩ | ⟨hfound, -, -⟩
  · exact absurd hmem List.not_mem_nil
  · exact ⟨first, second, book, hserved, hfirst, hsecond, hfound⟩

/-- A code of a single-use voucher can be redeemed twice without a release in between. -/
theorem not_always_released_between : ¬∀ (before between : List (Event String))
    (first second : Event String) (book : Vouchers) (key : CodeKey) (code : VoucherCode)
    (terms : Voucher), Served (before ++ first :: between ++ [second]) book →
    LookedUp (before ++ first :: between ++ [second]) → book.codes.get? key = some code →
    book.vouchers.get? code.voucher = some terms → terms.singleUse →
    first.Redeems code.voucher key → second.Redeems code.voucher key →
    ∃ event ∈ between, event.Releases key := by
  intro h
  obtain ⟨first, second, book, hserved, hlooked, hcode, hterms, hfirst, hsecond⟩ :=
    exists_gift_redeemed_twice
  obtain ⟨_, hmem, -⟩ :=
    h giftLookups [] first second book _ _ _ hserved hlooked hcode hterms rfl hfirst hsecond
  exact List.not_mem_nil hmem

end Vouchers

end Retail
