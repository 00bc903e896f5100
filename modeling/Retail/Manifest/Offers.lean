import Retail.Manifest.Shop
import Retail.Promotion.Basic
import Retail.Voucher.Basic

/-!
# Manifests of offers

What is written down about promotions and vouchers.

## Main definitions

* `BoundsEntry`, `ConditionEntry`: conditions on base prices
* `SelectionEntry`: selected variants
* `RuleEntry`, `PromotionEntry`: promotions
* `ListingEntry`, `VoucherEntry`: vouchers
-/

namespace Retail

/-- Bounds of a price in major units. -/
structure BoundsEntry where
  atLeast : Option String
  atMost : Option String
  exactly : Option String

/-- A condition on base prices: everything that is given must hold, and of `any`, where it is not
empty, one condition. -/
inductive ConditionEntry where
  | mk (all any : List ConditionEntry) (subtotal total : Option BoundsEntry)

/-- Names of what a catalogue rule selects. -/
structure SelectionEntry where
  variants : List String := []
  products : List String := []
  categories : List String := []
  collections : List String := []

/-- A rule, which is an order rule where it has a condition. -/
structure RuleEntry where
  name : Option String
  channels : List String
  selection : Option SelectionEntry
  condition : Option ConditionEntry
  reward : Option RewardType
  valueType : ValueType
  value : String
  localizations : Localizations

/-- A promotion with its rules. -/
structure PromotionEntry where
  id : String
  name : Option String
  oldSaleId : Option Nat
  start : Instant
  finish : Option Instant
  localizations : Localizations
  rules : List RuleEntry

/-- What a voucher gives in a channel. -/
structure ListingEntry where
  value : String
  minSpent : Option String

/-- A voucher with its listings by the names of channels, and with its codes. -/
structure VoucherEntry where
  name : Option String
  voucherType : VoucherType
  valueType : ValueType
  start : Instant
  finish : Option Instant
  usageLimit : Option Nat
  singleUse : Bool
  oncePerCustomer : Bool
  oncePerOrder : Bool
  onlyForStaff : Bool
  minItems : Option Nat
  listings : Named ListingEntry
  codes : List String

end Retail
