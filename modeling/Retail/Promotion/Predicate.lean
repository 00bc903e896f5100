import Retail.Catalogue

/-!
# Conditions of rules

Catalogue rules select variants, directly or through their product. Order rules set conditions on
the base prices of a checkout or an order.

## Main definitions

* `CataloguePredicate`: which variants a rule selects
* `PriceRange`: bounds of a price in major units
* `BasePrices`: the prices that order rules look at
* `OrderPredicate`: conditions on base prices
-/

namespace Retail

/-- The variants that a rule selects, directly or through their product, its category or one of its
collections. -/
structure CataloguePredicate where
  variants : List VariantKey := []
  products : List ProductKey := []
  categories : List CategoryKey := []
  collections : List CollectionKey := []

namespace CataloguePredicate

/-- Whether nothing is listed, so that nothing is selected. -/
def isEmpty (p : CataloguePredicate) : Bool :=
  p.variants.isEmpty && p.products.isEmpty && p.categories.isEmpty && p.collections.isEmpty

/-- Whether the product of a variant is selected. -/
def selectsProduct (p : CataloguePredicate) (key : ProductKey) (product : Product) : Bool :=
  p.products.contains key || product.category.any p.categories.contains
    || product.collections.any p.collections.contains

/-- Whether a variant is selected. -/
def selects (p : CataloguePredicate) (catalogue : Catalogue) (variant : VariantKey) : Bool :=
  p.variants.contains variant ||
    (catalogue.variants.get? variant).any fun entry =>
      (catalogue.products.get? entry.product).any (p.selectsProduct entry.product)

end CataloguePredicate

/-- Bounds of a price in major units; those that are absent do not bind. -/
structure PriceRange where
  atLeast : Option Decimal := none
  atMost : Option Decimal := none
  exactly : Option Decimal := none

/-- Whether a price in major units is within all bounds that there are. -/
def PriceRange.contains (range : PriceRange) (price : Money) : Bool :=
  range.atLeast.all (·.le price.toMajor) && range.atMost.all price.toMajor.le
    && range.exactly.all price.toMajor.sameValue

/-- The subtotal and the total before order discounts. -/
structure BasePrices where
  subtotal : Money
  total : Money
  deriving DecidableEq, Repr

/-- Conditions on base prices, combined by "all of" and "any of" to any depth. -/
inductive OrderPredicate where
  | all (conditions : List OrderPredicate)
  | any (conditions : List OrderPredicate)
  | subtotal (range : PriceRange)
  | total (range : PriceRange)

mutual

/-- Whether the base prices meet the condition. -/
def OrderPredicate.holds (prices : BasePrices) : OrderPredicate → Bool
  | .all conditions => OrderPredicate.allHold prices conditions
  | .any conditions => OrderPredicate.anyHolds prices conditions
  | .subtotal range => range.contains prices.subtotal
  | .total range => range.contains prices.total

/-- Whether the base prices meet all conditions of a list. -/
def OrderPredicate.allHold (prices : BasePrices) : List OrderPredicate → Bool
  | [] => true
  | condition :: rest => condition.holds prices && OrderPredicate.allHold prices rest

/-- Whether the base prices meet one of the conditions of a list. -/
def OrderPredicate.anyHolds (prices : BasePrices) : List OrderPredicate → Bool
  | [] => false
  | condition :: rest => condition.holds prices || OrderPredicate.anyHolds prices rest

end

end Retail
