import Retail.Assembly.Basic

/-!
# Assembling the shop

Channels with their shipping methods, which all channels share by name, and the catalogue, whose
prices must be in the currencies of their channels.

## Main definitions

* `Assembly.addChannels`: the channels
* `Assembly.addCatalogue`: categories, collections, products and variants
-/

namespace Retail

namespace Assembly

/-! ## Channels -/

/-- The key of a shipping method, which is entered where its name is new. -/
def ensureShippingMethod (a : Assembly) (name : String) : Assembly × ShippingMethodKey :=
  match lookup a.shippingMethods name with
  | some key => (a, key)
  | none =>
    let methods := a.scenario.shippingMethods
    ({ a with
      scenario := { a.scenario with shippingMethods := methods.push name }
      shippingMethods := a.shippingMethods ++ [(name, methods.nextKey)] }, methods.nextKey)

/-- Reads the shipping prices of a channel. -/
def addShippingPrices (currency : Currency) :
    Assembly → Named String → Except LoadError (Assembly × List (ShippingMethodKey × Money))
  | a, [] => .ok (a, [])
  | a, (name, text) :: rest => do
    let price ← priceIn currency text
    let (a, key) := a.ensureShippingMethod name
    let (a, prices) ← addShippingPrices currency a rest
    return (a, (key, price) :: prices)

/-- Enters a channel with the shipping methods that it prices. -/
def addChannel (a : Assembly) : String × ChannelEntry → Except LoadError Assembly
  | (name, entry) => do
    let currency ← (Currency.ofText entry.currency).mapError .priceText
    let (a, shippingPrices) ← addShippingPrices currency a entry.shippingPrices
    let channels := a.scenario.channels
    return { a with
      scenario := { a.scenario with channels := channels.push { currency, shippingPrices } }
      channels := a.channels ++ [(name, channels.nextKey)] }

/-- Enters the channels in the order in which they are written. -/
def addChannels (a : Assembly) (entries : Named ChannelEntry) : Except LoadError Assembly :=
  entries.foldlM addChannel a

/-! ## The catalogue -/

/-- The assembly with another catalogue. -/
def withCatalogue (a : Assembly) (catalogue : Catalogue) : Assembly :=
  { a with scenario := { a.scenario with catalogue } }

/-- Enters a category under its name. -/
def addCategory (a : Assembly) (name : String) : Assembly :=
  let catalogue := a.scenario.catalogue
  { a.withCatalogue { catalogue with categories := catalogue.categories.push name } with
    categories := a.categories ++ [(name, catalogue.categories.nextKey)] }

/-- Enters a collection under its name. -/
def addCollection (a : Assembly) (name : String) : Assembly :=
  let catalogue := a.scenario.catalogue
  { a.withCatalogue { catalogue with collections := catalogue.collections.push name } with
    collections := a.collections ++ [(name, catalogue.collections.nextKey)] }

/-- A price listed in the channel of a name. -/
def listedPrice (a : Assembly) : String × String → Except LoadError (ChannelKey × Money)
  | (name, text) => do
    let key ← a.channelKey name
    match a.scenario.channels.get? key with
    | some channel => return (key, ← priceIn channel.currency text)
    | none => return (key, ← readPrice text)

/-- Enters a variant of a product with its prices. -/
def addVariant (product : ProductKey) (a : Assembly) :
    String × VariantEntry → Except LoadError Assembly
  | (name, entry) => do
    let prices ← entry.prices.mapM a.listedPrice
    let catalogue := a.scenario.catalogue
    let variant : Variant := { product, name := entry.name, prices }
    return { a.withCatalogue { catalogue with variants := catalogue.variants.push variant } with
      variants := a.variants ++ [(name, catalogue.variants.nextKey)] }

/-- Enters a product with its variants. -/
def addProduct (a : Assembly) : String × ProductEntry → Except LoadError Assembly
  | (name, entry) => do
    let category ← entry.category.mapM a.categoryKey
    let collections ← entry.collections.mapM a.collectionKey
    let catalogue := a.scenario.catalogue
    let product : Product := { name := entry.name, category, collections }
    let key := catalogue.products.nextKey
    let a := { a.withCatalogue { catalogue with products := catalogue.products.push product } with
      products := a.products ++ [(name, key)] }
    entry.variants.foldlM (addVariant key) a

/-- Enters all categories, then all collections, then all products with their variants. -/
def addCatalogue (a : Assembly) (manifest : CatalogueManifest) : Except LoadError Assembly :=
  let a := manifest.categories.foldl addCategory a
  let a := manifest.collections.foldl addCollection a
  manifest.products.foldlM addProduct a

end Assembly

end Retail
