import Retail.Key
import Retail.Money.Basic

/-!
# Channels

A channel sells in one currency and lists the prices of its shipping methods.

## Main definitions

* `Channel`: a channel
* `lookup`: the value listed under a key
-/

namespace Retail

/-- The value under a key in a list of pairs, in which the last entry for a key counts. -/
def lookup {κ α : Type} [BEq κ] (entries : List (κ × α)) (key : κ) : Option α :=
  (entries.reverse.find? (·.1 == key)).map Prod.snd

theorem lookup_append_singleton {κ α : Type} [BEq κ] (entries : List (κ × α)) (key other : κ)
    (value : α) : lookup (entries ++ [(key, value)]) other =
      if key == other then some value else lookup entries other := by
  unfold lookup
  rw [List.reverse_append, List.reverse_singleton, List.singleton_append, List.find?_cons]
  cases key == other <;> rfl

/-- A channel with its currency and the prices of its shipping methods. -/
structure Channel where
  currency : Currency
  shippingPrices : List (ShippingMethodKey × Money)

/-- The price of a shipping method, if the channel lists it. -/
def Channel.shippingPrice (channel : Channel) (method : ShippingMethodKey) : Option Money :=
  lookup channel.shippingPrices method

end Retail
