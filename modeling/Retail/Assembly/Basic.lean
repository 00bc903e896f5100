import Retail.Manifest.Shop
import Retail.Money.Text
import Retail.Scenario

/-!
# Scenarios under assembly

A scenario is assembled from manifests, which refer to everything by name. The assembly keeps the
names beside the scenario; of two entries of one name the later one counts.

## Main definitions

* `LoadError`: why a manifest is refused
* `Assembly`: a scenario with the names of what is in it
* `Assembly.channelKey` and its like: the keys behind names
* `priceIn`: the reader of prices in a known currency
-/

namespace Retail

/-- The documents of which a scenario is made. -/
inductive ManifestKind where
  | channels | catalogue | promotions | vouchers | orders
  deriving DecidableEq, Repr

/-- The name of a document in messages. -/
def ManifestKind.label : ManifestKind → String
  | .channels => "channels"
  | .catalogue => "catalogue"
  | .promotions => "promotions"
  | .vouchers => "vouchers"
  | .orders => "orders"

/-- What manifests refer to by name. -/
inductive NamedKind where
  | channel | shippingMethod | category | collection | product | variant
  | promotion | voucher | voucherCode
  deriving DecidableEq, Repr

/-- What is missing under a name, in the message that says so. -/
def NamedKind.label : NamedKind → String
  | .channel => "Channel"
  | .shippingMethod => "Shipping method"
  | .category => "Category"
  | .collection => "Collection"
  | .product => "Product"
  | .variant => "Variant"
  | .promotion => "Promotion"
  | .voucher => "Voucher"
  | .voucherCode => "Voucher code"

/-- Why a manifest is refused. -/
inductive LoadError where
  | missingDocument (kind : ManifestKind)
  | malformed (kind : ManifestKind)
  | priceText (error : PriceTextError)
  | invalidId (text : String)
  | unknownName (kind : NamedKind) (name : String)
  | notListed (variant channel : String)
  | wrongCurrency (expected found : Currency)
  | pricing (error : PricingError)
  | promotion (error : PromotionError)
  | voucher (error : VoucherError)
  deriving DecidableEq, Repr

/-- The message of an error; a promotion or rule missing from the book is an internal fault. -/
def LoadError.message : LoadError → String
  | .missingDocument kind => "Failed to read the document of the " ++ kind.label
  | .malformed kind => "Malformed document of the " ++ kind.label
  | .priceText error => error.message
  | .invalidId text => "Invalid promotion id: " ++ text
  | .unknownName kind name => kind.label ++ " not found: " ++ name
  | .notListed variant channel =>
    "Variant " ++ variant ++ " is not listed in channel " ++ channel
  | .wrongCurrency expected found =>
    "Currency mismatch: expected " ++ expected.code ++ ", found " ++ found.code
  | .pricing error => error.message
  | .promotion (.promotionNotFound key) => "promotion " ++ toString key.index ++ " not found"
  | .promotion (.ruleNotFound key) => "rule " ++ toString key.index ++ " not found"
  | .voucher error => error.message

/-- Keys under names. -/
abbrev Names (kind : EntityKind) := Named (Key kind)

/-- A scenario with the names of what is in it. -/
structure Assembly where
  scenario : Scenario
  channels : Names .channel
  shippingMethods : Names .shippingMethod
  categories : Names .category
  collections : Names .collection
  products : Names .product
  variants : Names .variant
  promotions : Names .promotion
  vouchers : Names .voucher

namespace Assembly

/-- Nothing is in the shop, and nothing has a name. -/
def empty : Assembly where
  scenario := .empty
  channels := []
  shippingMethods := []
  categories := []
  collections := []
  products := []
  variants := []
  promotions := []
  vouchers := []

/-- The key under a name, which must be there. -/
def keyIn {kind : EntityKind} (names : Names kind) (named : NamedKind) (name : String) :
    Except LoadError (Key kind) :=
  (lookup names name).elim (.error (.unknownName named name)) .ok

/-- The key of the channel with this name. -/
def channelKey (a : Assembly) : String → Except LoadError ChannelKey := keyIn a.channels .channel

/-- The key of the shipping method with this name. -/
def shippingMethodKey (a : Assembly) : String → Except LoadError ShippingMethodKey :=
  keyIn a.shippingMethods .shippingMethod

/-- The key of the category with this name. -/
def categoryKey (a : Assembly) : String → Except LoadError CategoryKey :=
  keyIn a.categories .category

/-- The key of the collection with this name. -/
def collectionKey (a : Assembly) : String → Except LoadError CollectionKey :=
  keyIn a.collections .collection

/-- The key of the product with this name. -/
def productKey (a : Assembly) : String → Except LoadError ProductKey := keyIn a.products .product

/-- The key of the variant with this name. -/
def variantKey (a : Assembly) : String → Except LoadError VariantKey := keyIn a.variants .variant

/-- The key of the promotion with this name. -/
def promotionKey (a : Assembly) : String → Except LoadError PromotionKey :=
  keyIn a.promotions .promotion

/-- The key of the voucher with this name. -/
def voucherKey (a : Assembly) : String → Except LoadError VoucherKey := keyIn a.vouchers .voucher

end Assembly

/-! ## Texts -/

/-- A listed number, or the reason why the text is none. -/
def readNumber (text : String) : Except LoadError Decimal :=
  (Decimal.ofListed text).mapError .priceText

/-- A listed price in whatever currency it is written, or the reason why the text is none. -/
def readPrice (text : String) : Except LoadError Money := (Money.ofText text).mapError .priceText

/-- A price in a currency that is known beforehand. -/
def priceIn (currency : Currency) (text : String) : Except LoadError Money := do
  let price ← readPrice text
  if price.currency = currency then return price
  throw (.wrongCurrency currency price.currency)

end Retail
