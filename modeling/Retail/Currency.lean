/-!
# Currencies

Each currency has a number of decimals and a way in which its amounts are written.

## Main definitions

* `Currency`: the currencies
* `Currency.exponent`: the number of digits behind the point
* `Currency.style`: symbol and separators of the written form
* `Currency.ofListedCode?`: the currencies in which prices may be listed
-/

namespace Retail

/-- The currencies, named by their codes. -/
inductive Currency where
  | gbp | usd | eur | jpy | kwd | inr | chf | clf | byn
  deriving DecidableEq, Repr

/-- How amounts are written: the symbol and whether it comes first, what separates the groups of
digits and the decimals, and the sizes of the groups from the right. -/
structure CurrencyStyle where
  symbol : String
  symbolFirst : Bool
  groupSeparator : Char
  decimalSeparator : Char
  groupSizes : List Nat

namespace Currency

/-- All currencies. -/
def all : List Currency := [.gbp, .usd, .eur, .jpy, .kwd, .inr, .chf, .clf, .byn]

/-- The code of three letters. -/
def code : Currency → String
  | .gbp => "GBP"
  | .usd => "USD"
  | .eur => "EUR"
  | .jpy => "JPY"
  | .kwd => "KWD"
  | .inr => "INR"
  | .chf => "CHF"
  | .clf => "CLF"
  | .byn => "BYN"

/-- The number of digits of an amount behind the point. -/
def exponent : Currency → Nat
  | .jpy => 0
  | .gbp | .usd | .eur | .inr | .chf | .byn => 2
  | .kwd => 3
  | .clf => 4

/-- How amounts in the currency are written for a reader. -/
def style : Currency → CurrencyStyle
  | .gbp => ⟨"£", true, ',', '.', [3, 3, 3]⟩
  | .usd => ⟨"$", true, ',', '.', [3, 3, 3]⟩
  | .eur => ⟨"€", true, '.', ',', [3, 3, 3]⟩
  | .jpy => ⟨"¥", true, ',', '.', [3, 3, 3]⟩
  | .kwd => ⟨"د.ك", true, ',', '.', [3, 3, 3]⟩
  | .inr => ⟨"₹", true, ',', '.', [3, 2, 2]⟩
  | .chf => ⟨"Fr", true, ',', '.', [3, 3, 3]⟩
  | .clf => ⟨"UF", true, '.', ',', [3, 3, 3]⟩
  | .byn => ⟨"Br", false, ' ', ',', [3, 3, 3]⟩

/-- The currency with this code. -/
def ofCode? (code : String) : Option Currency := all.find? (·.code == code)

/-- The currencies in which prices may be listed. -/
def listed : List Currency := [.gbp, .usd, .eur, .jpy]

/-- The currency with this code, if prices may be listed in it. -/
def ofListedCode? (code : String) : Option Currency := listed.find? (·.code == code)

theorem exponent_le (c : Currency) : c.exponent ≤ 28 := by cases c <;> decide

end Currency

end Retail
