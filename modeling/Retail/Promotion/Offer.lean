import Retail.Line.Basic
import Retail.Promotion.Book

/-!
# Offers

The rules that apply to a price in a channel, and the one that saves most.

## Main definitions

* `Rule.discountIn`: the discount of a rule in a channel
* `bestOffer`: the first rule that saves most
* `priceUnderRules`: the price after the savings of several rules
* `cataloguePrices`: the prices of lines after catalogue promotions
* `bestReward`: the first order rule that gives most
-/

namespace Retail

/-- The discount of a rule in a channel. -/
def Rule.discountIn (rule : Rule) (channel : ChannelKey) : Except NotApplicable DiscountValue :=
  if rule.channels.contains channel then .ok rule.value else .error .channelNotAvailable

/-- The discounts of the rules that are available in a channel. -/
def offersIn (rules : List (RuleKey × Rule)) (channel : ChannelKey) :
    List (RuleKey × DiscountValue) :=
  rules.filterMap fun (key, rule) => ((rule.discountIn channel).toOption).map (key, ·)

/-- The first of the candidates whose amount is largest, given the best one so far. -/
def firstLargest {α : Type} (amount : α → Except PricingError Money) :
    Option (α × Money) → List α → Except PricingError (Option (α × Money))
  | best, [] => .ok best
  | best, candidate :: rest =>
    match amount candidate with
    | .error e => .error e
    | .ok money =>
      if best.all fun (_, most) => most.minorUnits < money.minorUnits then
        firstLargest amount (some (candidate, money)) rest
      else firstLargest amount best rest

/-- The rule that saves most on a price, with its saving; the first of several. -/
def bestOffer (price : Money) (rules : List (RuleKey × Rule)) (channel : ChannelKey) :
    Except PricingError (Option (RuleKey × Money)) := do
  let best ← firstLargest (fun (_, discount) => discount.amountOff price) none
    (offersIn rules channel)
  return best.map fun ((key, _), saving) => (key, saving)

/-- The price after the savings of all the rules, at least zero. -/
def priceUnderRules (price : Money) (rules : List Rule) (currency : Currency) :
    Except PricingError Money := do
  let savings ← rules.mapM fun rule => rule.value.amountOff price
  return (← price.sub (← Money.total currency savings)).floorAtZero

/-- The order rule that gives most on a subtotal, with what it gives; the first of several. -/
def bestReward (rules : List (RuleKey × Rule)) (subtotal : Money) (currency : Currency) :
    Except PricingError (Option ((RuleKey × Rule) × Money)) :=
  firstLargest (fun (_, rule) => rule.reward subtotal currency) none rules

/-! ## Prices of lines -/

namespace Line

/-- Notes the rules that the line qualifies for. -/
def setRules (rules : List LineRule) : Step Line PricingError Unit :=
  modify fun line => { line with rules }

/-- Gives a line the price of its best offer, or its full price. -/
def setCataloguePrice (book : Promotions) (channel : ChannelKey) (now : Instant) :
    Step Line PricingError Unit := do
  let line ← get
  let price := line.undiscountedUnitPrice
  match ← Step.answer (bestOffer price (book.activeRulesOf line.variant now) channel) with
  | some (rule, saving) =>
    setDiscountedUnitPrice (← Step.answer (price.sub saving))
    setRules [⟨rule, some saving⟩]
  | none =>
    setDiscountedUnitPrice price
    setRules []

end Line

/-- Gives lines the prices of their best offers in a channel. -/
def cataloguePrices (book : Promotions) (channel : ChannelKey) (now : Instant) :
    Step (List Line) PricingError Unit := do
  discard (Step.onEach (Line.setCataloguePrice book channel now))

end Retail
