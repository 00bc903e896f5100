import Retail.Assembly.Set
import Retail.Proofs.Discount.Value
import Retail.Proofs.Entry
import Retail.Proofs.Key

/-!
# A coherent shop

While a shop is assembled, everything that is entered refers to what is already there, and prices
are in the currency of their channel. What was entered is found under its key from then on, so this
stays so whatever is entered next.

## Main definitions

* `Money.IsIn`: an amount of 64 bits in a currency
* `Assembly.Coherent`: a shop in which nothing is missing and no currency is wrong
* `Assembly.Extends`: a shop to which something was added

## Main results

* `Assembly.extends_add`: whatever manifest is entered
* `Assembly.Sells.sold`: a line is sold in the currency of its channel
-/

namespace Retail

/-! ## Amounts, channels and codes -/

/-- The amount is in the currency and has 64 bits. -/
structure Money.IsIn (currency : Currency) (m : Money) : Prop where
  currency_eq : m.currency = currency
  fits : fitsMinor m.minor

theorem Money.isIn_zero (currency : Currency) : (Money.zero currency).IsIn currency :=
  ⟨rfl, (by decide : fitsMinor 0 = true)⟩

/-- Every shipping price is in the currency of the channel. -/
def Channel.Coherent (channel : Channel) : Prop :=
  ∀ entry ∈ channel.shippingPrices, entry.2.IsIn channel.currency

theorem exists_mem_of_lookup {κ α : Type} [BEq κ] [LawfulBEq κ] {entries : List (κ × α)} {key : κ}
    {value : α} (h : lookup entries key = some value) : (key, value) ∈ entries := by
  obtain ⟨⟨found, _⟩, hfound, rfl⟩ := Option.map_eq_some_iff.1 h
  obtain rfl : found = key := by simpa using List.find?_some hfound
  exact List.mem_reverse.1 (List.mem_of_find?_eq_some hfound)

theorem Channel.Coherent.shippingPrice {channel : Channel} {method : ShippingMethodKey}
    {price : Money} (h : channel.Coherent) (hprice : channel.shippingPrice method = some price) :
    price.IsIn channel.currency :=
  h _ (exists_mem_of_lookup hprice)

theorem Voucher.isActiveIn_iff {voucher : Voucher} {channel : ChannelKey} {now : Instant} :
    voucher.isActiveIn channel now ↔
      now.within voucher.start voucher.finish ∧ (voucher.listing? channel).isSome := by
  rw [isActiveIn, Bool.and_eq_true]

namespace Vouchers

variable {book : Vouchers} {text : String} {code : VoucherCode}

/-- The code with a text, as it was entered. -/
def codeOf? (book : Vouchers) (text : String) : Option VoucherCode :=
  (book.findCode? text).bind book.codes.get?

/-- Every code is one of a voucher of the book. -/
def Coherent (book : Vouchers) : Prop :=
  ∀ code ∈ book.codes.values, ∃ voucher, book.vouchers.get? code.voucher = some voucher

theorem mem_values_of_codeOf? (h : book.codeOf? text = some code) : code ∈ book.codes.values := by
  obtain ⟨key, -, hfound⟩ := Option.bind_eq_some_iff.1 h
  exact List.mem_map_of_mem (Registry.get?_eq_some.1 hfound)

/-- A code can be used that is active and of a voucher that can be redeemed. -/
theorem exists_usableCode_iff {channel : ChannelKey} {now : Instant} :
    (∃ key, book.usableCode text channel now = .ok key) ↔
      ∃ code voucher, book.codeOf? text = some code ∧ code.isActive ∧
        book.vouchers.get? code.voucher = some voucher ∧ voucher.isActiveIn channel now := by
  have helim : ∀ {found : Option CodeKey} {error : VoucherError} {key : CodeKey},
      found.elim (.error error) .ok = Except.ok key ↔ found = some key := by
    intro found error key
    cases found <;> simp
  simp only [usableCode, helim, Option.filter_eq_some_iff, Option.any_eq_true, Bool.and_eq_true]
  constructor
  · rintro ⟨key, hkey, code, hcode, hactive, voucher, hvoucher, hredeemable⟩
    exact ⟨code, voucher, Option.bind_eq_some_iff.2 ⟨key, hkey, hcode⟩, hactive, hvoucher,
      hredeemable⟩
  · rintro ⟨code, voucher, hcode, hactive, hvoucher, hredeemable⟩
    obtain ⟨key, hkey, hfound⟩ := Option.bind_eq_some_iff.1 hcode
    exact ⟨key, hkey, code, hfound, hactive, voucher, hvoucher, hredeemable⟩

/-- A code that is found stays the one with its text, since no other code gets the text. -/
theorem codeOf?_push {new : VoucherCode} (hnew : book.findCode? new.text = none)
    (h : book.codeOf? text = some code) :
    ({ book with
      codes := book.codes.push new
      index := book.index ++ [(new.text, book.codes.nextKey)] } : Vouchers).codeOf? text =
        some code := by
  obtain ⟨key, hkey, hfound⟩ := Option.bind_eq_some_iff.1 h
  refine Option.bind_eq_some_iff.2 ⟨key, ?_, Registry.get?_push_of_eq_some hfound⟩
  have hother : new.text ≠ text := by
    rintro rfl
    exact nomatch hnew.symm.trans hkey
  rw [findCode?, lookup_append_singleton, beq_false_of_ne hother]
  exact hkey

end Vouchers

namespace Assembly

variable {a a' b : Assembly}

/-! ## The shop -/

/-- Names of channels are those of channels, listed prices are in the currencies of theirs, and
codes belong to vouchers. -/
structure Coherent (a : Assembly) : Prop where
  names : ∀ entry ∈ a.channels, ∃ channel, a.scenario.channels.get? entry.2 = some channel
  channels : ∀ channel ∈ a.scenario.channels.values, channel.Coherent
  prices : ∀ variant ∈ a.scenario.catalogue.variants.values, ∀ entry ∈ variant.prices,
    ∃ channel, a.scenario.channels.get? entry.1 = some channel ∧ entry.2.IsIn channel.currency
  codes : a.scenario.vouchers.Coherent

/-- What is found in the first shop is found in the second one, which is coherent if the first one
is. -/
structure Extends (a a' : Assembly) : Prop where
  channels : ∀ {key channel}, a.scenario.channels.get? key = some channel →
    a'.scenario.channels.get? key = some channel
  vouchers : ∀ {key voucher}, a.scenario.vouchers.vouchers.get? key = some voucher →
    a'.scenario.vouchers.vouchers.get? key = some voucher
  codes : ∀ {text code}, a.scenario.vouchers.codeOf? text = some code →
    a'.scenario.vouchers.codeOf? text = some code
  coherent : a.Coherent → a'.Coherent

theorem Extends.refl (a : Assembly) : a.Extends a := ⟨id, id, id, id⟩

theorem Extends.trans (h : a.Extends a') (h' : a'.Extends b) : a.Extends b :=
  ⟨h'.channels ∘ h.channels, h'.vouchers ∘ h.vouchers, h'.codes ∘ h.codes, h'.coherent ∘ h.coherent⟩

/-- Nothing is entered but what no price and no code refers to. -/
theorem Extends.of_eq (hnames : a'.channels = a.channels)
    (hchannels : a'.scenario.channels = a.scenario.channels)
    (hvariants : a'.scenario.catalogue.variants = a.scenario.catalogue.variants)
    (hvouchers : a'.scenario.vouchers = a.scenario.vouchers) : a.Extends a' := by
  refine ⟨fun h => hchannels ▸ h, fun h => hvouchers ▸ h, fun h => hvouchers ▸ h, fun h => ?_⟩
  refine ⟨?_, ?_, ?_, hvouchers ▸ h.codes⟩
  · rw [hnames, hchannels]
    exact h.names
  · rw [hchannels]
    exact h.channels
  · rw [hvariants, hchannels]
    exact h.prices

theorem SameShop.extends (h : a.SameShop a') : a.Extends a' := by
  refine .of_eq ?_ ?_ ?_ ?_ <;> rw [h]

theorem extends_foldlM {α : Type} {add : Assembly → α → Except LoadError Assembly}
    {entries : List α} (hadd : ∀ {a a' entry}, add a entry = .ok a' → a.Extends a')
    (h : entries.foldlM add a = .ok a') : a.Extends a' :=
  foldlM_eq_ok_induction (fun _ _ _ _ hstep hprior => hprior.trans (hadd hstep)) h (.refl a)

/-! ## Channels -/

theorem priceIn_eq_ok {currency : Currency} {text : String} {price : Money} :
    priceIn currency text = .ok price ↔ readPrice text = .ok price ∧ price.currency = currency := by
  simp only [priceIn, bind_eq_ok]
  constructor
  · rintro ⟨read, hread, h⟩
    split at h
    · rename_i hcurrency
      obtain rfl := pure_eq_ok.1 h
      exact ⟨hread, hcurrency⟩
    · exact (throw_eq_ok.1 h).elim
  · rintro ⟨hread, hcurrency⟩
    refine ⟨price, hread, ?_⟩
    rw [if_pos hcurrency]
    rfl

/-- A price is read as an amount of major units, and has 64 bits. -/
theorem fitsMinor_of_readPrice {text : String} {price : Money} (h : readPrice text = .ok price) :
    fitsMinor price.minor := by
  simp only [readPrice, mapError_eq_ok, Money.ofText] at h
  split at h
  · simp only [bind_eq_ok, mapError_eq_ok] at h
    obtain ⟨_, -, _, -, hquantize⟩ := h
    exact fitsMinor_quantize hquantize
  · contradiction

theorem isIn_priceIn {currency : Currency} {text : String} {price : Money}
    (h : priceIn currency text = .ok price) : price.IsIn currency := by
  obtain ⟨hread, hcurrency⟩ := priceIn_eq_ok.1 h
  exact ⟨hcurrency, fitsMinor_of_readPrice hread⟩

theorem extends_ensureShippingMethod (name : String) :
    a.Extends (a.ensureShippingMethod name).1 := by
  unfold ensureShippingMethod
  split
  · exact .refl a
  · exact .of_eq rfl rfl rfl rfl

/-- The shipping prices that were read are in the currency of the channel. -/
theorem extends_addShippingPrices {currency : Currency} {entries : Named String}
    {prices : List (ShippingMethodKey × Money)}
    (h : addShippingPrices currency a entries = .ok (a', prices)) :
    a.Extends a' ∧ ∀ entry ∈ prices, entry.2.IsIn currency := by
  induction entries generalizing a prices with
  | nil =>
    simp only [addShippingPrices, Except.ok.injEq, Prod.mk.injEq] at h
    obtain ⟨rfl, rfl⟩ := h
    exact ⟨.refl a, List.forall_mem_nil _⟩
  | cons entry rest ih =>
    simp only [addShippingPrices, bind_eq_ok, pure_eq_ok, Prod.exists, Prod.mk.injEq] at h
    obtain ⟨price, hprice, _, more, hmore, rfl, rfl⟩ := h
    obtain ⟨hextends, hprices⟩ := ih hmore
    exact ⟨(extends_ensureShippingMethod entry.1).trans hextends,
      List.forall_mem_cons.2 ⟨isIn_priceIn hprice, hprices⟩⟩

theorem extends_addChannel {entry : String × ChannelEntry} (h : a.addChannel entry = .ok a') :
    a.Extends a' := by
  simp only [addChannel, bind_eq_ok, pure_eq_ok, Prod.exists] at h
  obtain ⟨currency, -, a₁, prices, hprices, rfl⟩ := h
  obtain ⟨hextends, hin⟩ := extends_addShippingPrices hprices
  refine hextends.trans ⟨Registry.get?_push_of_eq_some, id, id, fun hcoherent => ?_⟩
  refine ⟨List.forall_mem_append.2 ⟨fun entry hentry => ?_, ?_⟩, ?_, fun variant hvariant entry
    hentry => ?_, hcoherent.codes⟩
  · obtain ⟨channel, hchannel⟩ := hcoherent.names entry hentry
    exact ⟨channel, Registry.get?_push_of_eq_some hchannel⟩
  · rw [List.forall_mem_singleton]
    exact ⟨⟨currency, prices⟩, by rw [Registry.get?_push, if_pos rfl]⟩
  · simp only [Registry.values, Registry.push, List.map_append, List.map_singleton,
      List.forall_mem_append, List.forall_mem_singleton]
    exact ⟨hcoherent.channels, hin⟩
  · obtain ⟨channel, hchannel, hprice⟩ := hcoherent.prices variant hvariant entry hentry
    exact ⟨channel, Registry.get?_push_of_eq_some hchannel, hprice⟩

/-- A channel that is found by its name is found under its key. -/
theorem Coherent.exists_channel {name : String} {key : ChannelKey} (hcoherent : a.Coherent)
    (h : a.channelKey name = .ok key) :
    ∃ channel, a.scenario.channels.get? key = some channel := by
  unfold channelKey keyIn at h
  cases hfound : lookup a.channels name with
  | none => simp [hfound] at h
  | some found =>
    obtain rfl : found = key := by simpa [hfound] using h
    exact hcoherent.names _ (exists_mem_of_lookup hfound)

/-! ## The catalogue -/

theorem isIn_listedPrice {entry : String × String} {listing : ChannelKey × Money}
    (hcoherent : a.Coherent) (h : a.listedPrice entry = .ok listing) :
    ∃ channel, a.scenario.channels.get? listing.1 = some channel ∧
      listing.2.IsIn channel.currency := by
  simp only [listedPrice, bind_eq_ok] at h
  obtain ⟨key, hkey, h⟩ := h
  obtain ⟨channel, hchannel⟩ := hcoherent.exists_channel hkey
  simp only [hchannel, bind_eq_ok, pure_eq_ok] at h
  obtain ⟨price, hprice, rfl⟩ := h
  exact ⟨channel, hchannel, isIn_priceIn hprice⟩

theorem extends_addVariant {product : ProductKey} {entry : String × VariantEntry}
    (h : addVariant product a entry = .ok a') : a.Extends a' := by
  simp only [addVariant, bind_eq_ok, pure_eq_ok] at h
  obtain ⟨prices, hprices, rfl⟩ := h
  refine ⟨id, id, id, fun hcoherent => ⟨hcoherent.names, hcoherent.channels, ?_, hcoherent.codes⟩⟩
  simp only [withCatalogue, Registry.values, Registry.push, List.map_append, List.map_singleton,
    List.forall_mem_append, List.forall_mem_singleton]
  refine ⟨hcoherent.prices, fun listing hlisting => ?_⟩
  obtain ⟨source, -, hsource⟩ := exists_left_of_forall₂ (mapM_eq_ok.1 hprices) hlisting
  exact isIn_listedPrice hcoherent hsource

theorem extends_addProduct {entry : String × ProductEntry} (h : a.addProduct entry = .ok a') :
    a.Extends a' := by
  simp only [addProduct, bind_eq_ok] at h
  obtain ⟨category, -, collections, -, h⟩ := h
  have hvariants := extends_foldlM extends_addVariant h
  refine Extends.trans ?_ hvariants
  exact .of_eq rfl rfl rfl rfl

theorem extends_foldl {α : Type} {add : Assembly → α → Assembly} {entries : List α}
    (hadd : ∀ (a : Assembly) (entry : α), a.Extends (add a entry)) :
    a.Extends (entries.foldl add a) := by
  induction entries generalizing a with
  | nil => exact .refl a
  | cons entry rest ih => exact (hadd a entry).trans ih

theorem extends_addCatalogue {manifest : CatalogueManifest}
    (h : a.addCatalogue manifest = .ok a') : a.Extends a' := by
  have hcategories : ∀ (a : Assembly) (name : String), a.Extends (a.addCategory name) :=
    fun _ _ => .of_eq rfl rfl rfl rfl
  have hcollections : ∀ (a : Assembly) (name : String), a.Extends (a.addCollection name) :=
    fun _ _ => .of_eq rfl rfl rfl rfl
  exact ((extends_foldl hcategories).trans (extends_foldl hcollections)).trans
    (extends_foldlM extends_addProduct h)

/-! ## The offers -/

theorem extends_addRule {promotion : PromotionKey} {entry : RuleEntry}
    (h : addRule promotion a entry = .ok a') : a.Extends a' := by
  simp only [addRule, bind_eq_ok, pure_eq_ok, Prod.exists] at h
  obtain ⟨_, -, _, -, _, -, _, _, -, rfl⟩ := h
  exact .of_eq rfl rfl rfl rfl

theorem extends_addPromotion {entry : String × PromotionEntry}
    (h : a.addPromotion entry = .ok a') : a.Extends a' := by
  simp only [addPromotion, bind_eq_ok, pure_eq_ok] at h
  obtain ⟨_, -, _, hrules, rfl⟩ := h
  have hentered := extends_foldlM extends_addRule hrules
  refine Extends.trans ?_ (hentered.trans ?_)
  · exact .of_eq rfl rfl rfl rfl
  · exact .of_eq rfl rfl rfl rfl

theorem extends_addPromotions {entries : Named PromotionEntry}
    (h : a.addPromotions entries = .ok a') : a.Extends a' := by
  simp only [addPromotions, bind_eq_ok, pure_eq_ok, Prod.exists] at h
  obtain ⟨_, hpromotions, _, _, -, rfl⟩ := h
  exact (extends_foldlM extends_addPromotion hpromotions).trans (.of_eq rfl rfl rfl rfl)

/-- A code is entered under a voucher of the book. -/
theorem extends_addCode {voucher : VoucherKey} {text : String}
    (h : addCode voucher a text = .ok a') : a.Extends a' := by
  simp only [addCode, bind_eq_ok, pure_eq_ok, mapError_eq_ok, Prod.exists] at h
  obtain ⟨vouchers, key, hcode, rfl⟩ := h
  unfold Vouchers.addCode at hcode
  split_ifs at hcode with hmissing hknown
  obtain ⟨rfl, -⟩ := Prod.mk.inj (Except.ok.inj hcode)
  refine ⟨id, id, Vouchers.codeOf?_push (by simpa using hknown), fun hcoherent =>
    ⟨hcoherent.names, hcoherent.channels, hcoherent.prices, ?_⟩⟩
  simp only [Vouchers.Coherent, Registry.values, Registry.push, List.map_append,
    List.map_singleton, List.forall_mem_append, List.forall_mem_singleton]
  refine ⟨hcoherent.codes, Option.isSome_iff_exists.1 ?_⟩
  rw [← Registry.contains_eq_isSome]
  simpa using hmissing

theorem extends_addVoucher {entry : String × VoucherEntry} (h : a.addVoucher entry = .ok a') :
    a.Extends a' := by
  simp only [addVoucher, bind_eq_ok, pure_eq_ok] at h
  obtain ⟨_, -, _, hcodes, rfl⟩ := h
  have hentered := extends_foldlM extends_addCode hcodes
  refine Extends.trans ?_ (hentered.trans (.of_eq rfl rfl rfl rfl))
  refine ⟨id, Registry.get?_push_of_eq_some, id, fun hcoherent => ?_⟩
  refine ⟨hcoherent.names, hcoherent.channels, hcoherent.prices, fun code hcode => ?_⟩
  obtain ⟨voucher, hvoucher⟩ := hcoherent.codes code hcode
  exact ⟨voucher, Registry.get?_push_of_eq_some hvoucher⟩

/-! ## Manifests -/

theorem sameShop_addCheckout {entry : String × BasketEntry} (h : a.addCheckout entry = .ok a') :
    a.SameShop a' := by
  obtain ⟨_, _, _, rfl, -⟩ := exists_of_addCheckout h
  rfl

theorem sameShop_addOrder {entry : String × OrderEntry} (h : a.addOrder entry = .ok a') :
    a.SameShop a' := by
  obtain ⟨_, _, _, _, rfl, -⟩ := exists_of_addOrder h
  rfl

theorem sameShop_addSales {manifest : SalesManifest} (h : a.addSales manifest = .ok a') :
    a.SameShop a' := by
  simp only [addSales, bind_eq_ok] at h
  obtain ⟨a₁, hcheckouts, horders⟩ := h
  have hopened : a.SameShop a₁ := by
    refine foldlM_eq_ok_induction (fun _ _ _ _ hstep hprior => ?_) hcheckouts (.refl a)
    exact hprior.trans (sameShop_addCheckout hstep)
  refine foldlM_eq_ok_induction (fun _ _ _ _ hstep hprior => ?_) horders hopened
  exact hprior.trans (sameShop_addOrder hstep)

theorem extends_add {manifest : Manifest} (h : a.add manifest = .ok a') : a.Extends a' := by
  cases manifest with
  | channels entries => exact extends_foldlM extends_addChannel h
  | catalogue manifest => exact extends_addCatalogue h
  | promotions entries => exact extends_addPromotions h
  | vouchers entries => exact extends_foldlM extends_addVoucher h
  | orders sales => exact (sameShop_addSales h).extends

end Assembly

end Retail
