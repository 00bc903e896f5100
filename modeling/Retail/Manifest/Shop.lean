/-!
# Manifests of a shop

What is written down about the channels and the catalogue of a shop. Everything is referred to by
name, and prices are texts.

## Main definitions

* `ChannelEntry`: a channel with its shipping prices
* `CatalogueManifest`: categories, collections and products
-/

namespace Retail

/-- Values under names. -/
abbrev Named (α : Type) := List (String × α)

/-- A channel with the code of its currency and the prices of its shipping methods. -/
structure ChannelEntry where
  currency : String
  shippingPrices : Named String

/-- A variant with its prices in the channels. -/
structure VariantEntry where
  name : String
  prices : Named String

/-- A product with its variants under their names. -/
structure ProductEntry where
  name : String
  category : Option String
  collections : List String
  variants : Named VariantEntry

/-- All categories and collections by their names, and the products under theirs. -/
structure CatalogueManifest where
  categories : List String
  collections : List String
  products : Named ProductEntry

end Retail
