import Retail.Basket
import Retail.Manifest.Shop

/-!
# Manifests of sales

What is written down about checkouts and orders.

## Main definitions

* `BasketEntry`: a checkout
* `OrderEntry`: an order
* `SalesManifest`: checkouts and orders
-/

namespace Retail

/-- A variant, by its name, and a quantity. -/
structure LineEntry where
  variant : String
  quantity : Nat

/-- What checkouts and orders have in common. -/
structure BasketEntry where
  channel : String
  email : Option String
  customer : Option Customer
  language : Option String
  shippingMethod : Option String
  voucherCode : Option String
  lines : List LineEntry

/-- A discount given by the staff. -/
structure ManualEntry where
  valueType : ValueType
  value : String
  reason : Option String

/-- An order, which is written like a checkout and may have a discount given by the staff. -/
structure OrderEntry extends BasketEntry where
  manual : Option ManualEntry

/-- All checkouts and orders under their names. -/
structure SalesManifest where
  checkouts : Named BasketEntry
  orders : Named OrderEntry

end Retail
