import Retail.Discount.Record
import Retail.Instant.Basic
import Retail.Promotion.Predicate
import Retail.Text.Base64
import Retail.Uuid

/-!
# Promotions

A promotion is a campaign with a window of time. Its rules grant discounts on variants of the
catalogue or on whole orders.

## Main definitions

* `Promotion`, `Rule`: promotions and their rules
* `Rule.reward`: what a rule gives on a subtotal
* `Rule.discountName`, `Rule.localizedName`, `Promotion.reason`: the texts of a granted discount
* `Rule.terms`: what a rule grants
-/

namespace Retail

/-- What an order rule gives: a discount on the subtotal, or a gift. -/
inductive RewardType where
  | subtotalDiscount
  | gift
  deriving DecidableEq, Repr

/-- Texts by language. -/
abbrev Localizations := List (String × String)

/-- A campaign with its window of time, and with its name in some languages. -/
structure Promotion where
  id : Uuid
  name : Option String
  oldSaleId : Option Nat
  start : Instant
  finish : Option Instant
  localizations : Localizations

/-- Whether the instant lies in the window of the promotion. -/
def Promotion.isActive (promotion : Promotion) (now : Instant) : Bool :=
  now.within promotion.start promotion.finish

/-- What a rule applies to: selected variants, or orders on which a condition holds. -/
inductive RuleTarget where
  | catalogue (predicate : CataloguePredicate)
  | order (predicate : OrderPredicate) (reward : RewardType)

/-- A rule of a promotion: where it applies, what it applies to and what it takes off. -/
structure Rule where
  promotion : PromotionKey
  name : Option String
  channels : List ChannelKey
  target : RuleTarget
  value : DiscountValue
  localizations : Localizations

namespace Rule

/-- Whether the rule applies to whole orders. -/
def isOrderRule (rule : Rule) : Bool :=
  match rule.target with
  | .catalogue _ => false
  | .order _ _ => true

/-- The variants that the rule selects; an order rule selects none. -/
def cataloguePredicate (rule : Rule) : CataloguePredicate :=
  match rule.target with
  | .catalogue predicate => predicate
  | .order _ _ => {}

/-- Whether the rule is an order rule whose condition holds. -/
def appliesTo (rule : Rule) (prices : BasePrices) : Bool :=
  match rule.target with
  | .catalogue _ => false
  | .order predicate _ => predicate.holds prices

/-- What the rule takes off a subtotal; a gift is valued at what it takes off nothing. -/
def reward (rule : Rule) (subtotal : Money) (currency : Currency) : Except PricingError Money :=
  match rule.target with
  | .order _ .subtotalDiscount => rule.value.amountOff subtotal
  | _ => rule.value.amountOff (.zero currency)

end Rule

/-! ## Texts -/

/-- The texts of the promotion and of the rule, as far as they are there, joined by a colon. -/
def joinNames : Option String → Option String → Option String
  | some promotion, some rule => some (promotion ++ ": " ++ rule)
  | none, some rule => some rule
  | some promotion, none => some promotion
  | none, none => none

namespace Rule

/-- The name of a granted discount; empty names count as absent. -/
def discountName (rule : Rule) (promotion : Promotion) : Option String :=
  joinNames (promotion.name.filter (!·.isEmpty)) (rule.name.filter (!·.isEmpty))

/-- The localizations of promotion and rule in a language. -/
def localizationsIn (rule : Rule) (promotion : Promotion) (language : Option String) :
    Option String × Option String :=
  (language.bind (promotion.localizations.lookup ·), language.bind (rule.localizations.lookup ·))

/-- The names of promotion and rule in a language, joined like those of the discount itself. -/
def localizedName (rule : Rule) (promotion : Promotion) (language : Option String) :
    Option String :=
  let (promotion, rule) := rule.localizationsIn promotion language
  joinNames promotion rule

end Rule

namespace Promotion

/-- Whether the promotion was a sale once. -/
def kindLabel (promotion : Promotion) : String :=
  if promotion.oldSaleId.isSome then "Sale" else "Promotion"

/-- The public identifier: kind and number or identifier in base 64. -/
def saleId (promotion : Promotion) : String :=
  Text.base64OfText (promotion.kindLabel ++ ":" ++
    match promotion.oldSaleId with
    | some number => toString number
    | none => promotion.id.text)

/-- The reason that records of the promotion give. -/
def reason (promotion : Promotion) : String := promotion.kindLabel ++ ": " ++ promotion.saleId

end Promotion

/-- What a rule grants when it takes `amount` off. -/
def Rule.terms (rule : Rule) (key : RuleKey) (promotion : Promotion) (amount : Money)
    (language : Option String) : PromotionTerms where
  rule := key
  value := rule.value
  amount
  name := rule.discountName promotion
  localizedName := rule.localizedName promotion language
  reason := some promotion.reason

end Retail
