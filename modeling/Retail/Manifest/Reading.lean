import Retail.Document.Basic
import Retail.Instant.Reader
import Retail.Manifest.Offers
import Retail.Manifest.Sales

/-!
# Manifests read from documents

A document that does not have the form of its manifest is malformed as a whole, before anything in
it is looked up.

## Main definitions

* `channelEntries?`, `CatalogueManifest.ofDocument?`, `promotionEntries?`, `voucherEntries?`,
  `SalesManifest.ofDocument?`: the manifests
-/

namespace Retail

/-! ## Choices -/

/-- A value type by its name. -/
def ValueType.ofDocument? : Document → Option ValueType :=
  Document.choice? fun
    | "fixed" => some .fixed
    | "percentage" => some .percentage
    | _ => none

/-- A type of reward by its name. -/
def RewardType.ofDocument? : Document → Option RewardType :=
  Document.choice? fun
    | "subtotal_discount" => some .subtotalDiscount
    | "gift" => some .gift
    | _ => none

/-- A type of voucher by its name. -/
def VoucherType.ofDocument? : Document → Option VoucherType :=
  Document.choice? fun
    | "entire_order" => some .entireOrder
    | "shipping" => some .shipping
    | "specific_product" => some .specificProduct
    | _ => none

/-- An instant in its written form. -/
def Instant.ofDocument? (document : Document) : Option Instant :=
  document.string?.bind Instant.ofText?

namespace Document

/-- A list of texts. -/
def strings? : Document → Option (List String) := listOf? string?

/-- Texts under names. -/
def namedStrings? : Document → Option (Named String) := mapOf? string?

end Document

open Document

/-! ## Channels and catalogue -/

/-- A channel, which needs a currency. -/
def ChannelEntry.ofDocument? (document : Document) : Option ChannelEntry := do
  let fields ← document.fields?
  return {
    currency := ← fields.required? "currency" string?
    shippingPrices := ← fields.orElse? "shipping_methods" [] namedStrings? }

/-- The manifest of the channels. -/
def channelEntries? (document : Document) : Option (Named ChannelEntry) := do
  (← document.fields?).required? "channels" (mapOf? ChannelEntry.ofDocument?)

/-- A variant, which needs a name. -/
def VariantEntry.ofDocument? (document : Document) : Option VariantEntry := do
  let fields ← document.fields?
  return {
    name := ← fields.required? "name" string?
    prices := ← fields.orElse? "prices" [] namedStrings? }

/-- A product, which needs a name and variants. -/
def ProductEntry.ofDocument? (document : Document) : Option ProductEntry := do
  let fields ← document.fields?
  return {
    name := ← fields.required? "name" string?
    category := ← fields.optional? "category" string?
    collections := ← fields.orElse? "collections" [] strings?
    variants := ← fields.required? "variants" (mapOf? VariantEntry.ofDocument?) }

/-- The manifest of the catalogue. -/
def CatalogueManifest.ofDocument? (document : Document) : Option CatalogueManifest := do
  let fields ← document.fields?
  return {
    categories := ← fields.orElse? "categories" [] strings?
    collections := ← fields.orElse? "collections" [] strings?
    products := ← fields.required? "products" (mapOf? ProductEntry.ofDocument?) }

/-! ## Promotions -/

/-- Bounds, each of which may be absent. -/
def BoundsEntry.ofDocument? (document : Document) : Option BoundsEntry := do
  let fields ← document.fields?
  return {
    atLeast := ← fields.optional? "gte" string?
    atMost := ← fields.optional? "lte" string?
    exactly := ← fields.optional? "eq" string? }

mutual

/-- A condition, of which every part may be absent. -/
def ConditionEntry.ofDocument? : Document → Option ConditionEntry
  | .map fields => do
    let all ← ConditionEntry.children? "and" fields
    let any ← ConditionEntry.children? "or" fields
    let subtotal ← Fields.optional? fields "base_subtotal_price" BoundsEntry.ofDocument?
    let total ← Fields.optional? fields "base_total_price" BoundsEntry.ofDocument?
    return .mk all any subtotal total
  | _ => none

/-- The conditions in the list under a name; none where the name is absent. -/
def ConditionEntry.children? (name : String) : Fields → Option (List ConditionEntry)
  | [] => some []
  | (key, document) :: rest =>
    if name == key then
      match document with
      | .list items => ConditionEntry.ofDocuments? items
      | _ => none
    else ConditionEntry.children? name rest

/-- The conditions of a list. -/
def ConditionEntry.ofDocuments? : List Document → Option (List ConditionEntry)
  | [] => some []
  | document :: rest => do
    return (← ConditionEntry.ofDocument? document) :: (← ConditionEntry.ofDocuments? rest)

end

/-- A selection; what is absent selects nothing. -/
def SelectionEntry.ofDocument? (document : Document) : Option SelectionEntry := do
  let fields ← document.fields?
  return {
    variants := ← fields.orElse? "variants" [] strings?
    products := ← fields.orElse? "products" [] strings?
    categories := ← fields.orElse? "categories" [] strings?
    collections := ← fields.orElse? "collections" [] strings? }

/-- A rule, which needs a value and its type. -/
def RuleEntry.ofDocument? (document : Document) : Option RuleEntry := do
  let fields ← document.fields?
  return {
    name := ← fields.optional? "name" string?
    channels := ← fields.orElse? "channels" [] strings?
    selection := ← fields.optional? "catalogue" SelectionEntry.ofDocument?
    condition := ← fields.optional? "order" ConditionEntry.ofDocument?
    reward := ← fields.optional? "reward_type" RewardType.ofDocument?
    valueType := ← fields.required? "reward_value_type" ValueType.ofDocument?
    value := ← fields.required? "reward_value" string?
    localizations := ← fields.orElse? "translations" [] namedStrings? }

/-- A promotion, which needs an identifier, a start and rules. -/
def PromotionEntry.ofDocument? (document : Document) : Option PromotionEntry := do
  let fields ← document.fields?
  return {
    id := ← fields.required? "id" string?
    name := ← fields.optional? "name" string?
    oldSaleId := ← fields.optional? "old_sale_id" (natural? 64)
    start := ← fields.required? "start" Instant.ofDocument?
    finish := ← fields.optional? "end" Instant.ofDocument?
    localizations := ← fields.orElse? "translations" [] namedStrings?
    rules := ← fields.required? "rules" (listOf? RuleEntry.ofDocument?) }

/-- The manifest of the promotions. -/
def promotionEntries? (document : Document) : Option (Named PromotionEntry) := do
  (← document.fields?).required? "promotions" (mapOf? PromotionEntry.ofDocument?)

/-! ## Vouchers -/

/-- What a voucher lists for a channel, which needs a value. -/
def ListingEntry.ofDocument? (document : Document) : Option ListingEntry := do
  let fields ← document.fields?
  return {
    value := ← fields.required? "discount_value" string?
    minSpent := ← fields.optional? "min_spent" string? }

/-- A voucher, which needs its types, a start, listings and codes. Its limits and conditions may be
absent and do not bind then. -/
def VoucherEntry.ofDocument? (document : Document) : Option VoucherEntry := do
  let fields ← document.fields?
  return {
    name := ← fields.optional? "name" string?
    voucherType := ← fields.required? "type" VoucherType.ofDocument?
    valueType := ← fields.required? "discount_value_type" ValueType.ofDocument?
    start := ← fields.required? "start" Instant.ofDocument?
    finish := ← fields.optional? "end" Instant.ofDocument?
    usageLimit := ← fields.optional? "usage_limit" (natural? 32)
    singleUse := ← fields.orElse? "single_use" false boolean?
    oncePerCustomer := ← fields.orElse? "apply_once_per_customer" false boolean?
    oncePerOrder := ← fields.orElse? "apply_once_per_order" false boolean?
    onlyForStaff := ← fields.orElse? "only_for_staff" false boolean?
    minItems := ← fields.optional? "min_checkout_items_quantity" (natural? 32)
    listings := ← fields.required? "channels" (mapOf? ListingEntry.ofDocument?)
    codes := ← fields.required? "codes" strings? }

/-- The manifest of the vouchers. -/
def voucherEntries? (document : Document) : Option (Named VoucherEntry) := do
  (← document.fields?).required? "vouchers" (mapOf? VoucherEntry.ofDocument?)

/-! ## Checkouts and orders -/

/-- A customer, who needs an address and is not one of the staff unless it is said so. -/
def Customer.ofDocument? (document : Document) : Option Customer := do
  let fields ← document.fields?
  return {
    email := ← fields.required? "email" string?
    isStaff := ← fields.orElse? "staff" false boolean? }

/-- A line, which needs a variant and a quantity. -/
def LineEntry.ofDocument? (document : Document) : Option LineEntry := do
  let fields ← document.fields?
  return {
    variant := ← fields.required? "variant" string?
    quantity := ← fields.required? "quantity" (natural? 32) }

/-- A checkout, which needs a channel and lines. -/
def BasketEntry.ofDocument? (document : Document) : Option BasketEntry := do
  let fields ← document.fields?
  return {
    channel := ← fields.required? "channel" string?
    email := ← fields.optional? "email" string?
    customer := ← fields.optional? "customer" Customer.ofDocument?
    language := ← fields.optional? "language" string?
    shippingMethod := ← fields.optional? "shipping_method" string?
    voucherCode := ← fields.optional? "voucher_code" string?
    lines := ← fields.required? "lines" (listOf? LineEntry.ofDocument?) }

/-- A discount given by the staff, which needs a value and its type. -/
def ManualEntry.ofDocument? (document : Document) : Option ManualEntry := do
  let fields ← document.fields?
  return {
    valueType := ← fields.required? "value_type" ValueType.ofDocument?
    value := ← fields.required? "value" string?
    reason := ← fields.optional? "reason" string? }

/-- An order: a checkout that may have a discount given by the staff. -/
def OrderEntry.ofDocument? (document : Document) : Option OrderEntry := do
  return {
    toBasketEntry := ← BasketEntry.ofDocument? document
    manual := ← (← document.fields?).optional? "manual_discount" ManualEntry.ofDocument? }

/-- The manifest of checkouts and orders. -/
def SalesManifest.ofDocument? (document : Document) : Option SalesManifest := do
  let fields ← document.fields?
  return {
    checkouts := ← fields.orElse? "checkouts" [] (mapOf? BasketEntry.ofDocument?)
    orders := ← fields.orElse? "orders" [] (mapOf? OrderEntry.ofDocument?) }

end Retail
