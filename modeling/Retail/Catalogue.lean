import Retail.Channel

/-!
# The catalogue

Products, which belong to a category and to collections, and their variants, which have a price in
each channel that lists them.

## Main definitions

* `Product`, `Variant`: what is sold
* `Catalogue`: everything that is sold
-/

namespace Retail

/-- A product, in one category at most and in any number of collections. -/
structure Product where
  name : String
  category : Option CategoryKey
  collections : List CollectionKey

/-- A variant of a product with the channels that list it and its price in each of them. -/
structure Variant where
  product : ProductKey
  name : String
  prices : List (ChannelKey × Money)

/-- The price in a channel, if that lists the variant. -/
def Variant.price (variant : Variant) (channel : ChannelKey) : Option Money :=
  lookup variant.prices channel

/-- All that is sold, each kind of entity under keys of its own. -/
structure Catalogue where
  categories : Registry .category String
  collections : Registry .collection String
  products : Registry .product Product
  variants : Registry .variant Variant

namespace Catalogue

/-- The catalogue in which nothing is sold. -/
def empty : Catalogue := ⟨.empty, .empty, .empty, .empty⟩

/-- The product of a variant. -/
def product? (catalogue : Catalogue) (variant : VariantKey) : Option Product :=
  (catalogue.variants.get? variant).bind fun variant => catalogue.products.get? variant.product

end Catalogue

end Retail
