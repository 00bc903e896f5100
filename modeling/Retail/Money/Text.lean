import Retail.Money.Basic
import Retail.Decimal.Reader
import Retail.Text.Blank

/-!
# Amounts of money as text

Amounts are written in two forms: plainly, as `12.50 GBP`, and for a reader of the currency, with
its symbol and its groups of digits. Listed prices are read from the plain form.

## Main definitions

* `Money.plain`: amount and code
* `Money.display`: amount in the style of the currency
* `PriceTextError`: why a text is not a price
* `Money.ofText`: the reader of listed prices
* `Decimal.ofListed`: the reader of listed numbers
-/

namespace Retail

namespace Money

/-- The exact amount, with all decimals of the currency, and its code. -/
def plain (m : Money) : String :=
  String.ofList ((if m.minor < 0 then ['-'] else [])
    ++ Decimal.pointedDigits m.currency.exponent m.minor.natAbs) ++ " " ++ m.currency.code

/-- Digits from the right with a separator behind each group. A group is split off only while more
digits follow, and all that follow the last group stay together. -/
def groupFromRight (separator : Char) : List Nat → List Char → List Char
  | [], digits => digits
  | size :: sizes, digits =>
    if size < digits.length then
      digits.take size ++ separator :: groupFromRight separator sizes (digits.drop size)
    else digits

/-- The amount in the style of its currency. -/
def display (m : Money) : String :=
  let style := m.currency.style
  let digits := Decimal.paddedDigits (m.currency.exponent + 1) m.minor.natAbs
  let whole := digits.take (digits.length - m.currency.exponent)
  let decimals := digits.drop (digits.length - m.currency.exponent)
  let grouped := (groupFromRight style.groupSeparator style.groupSizes whole.reverse).reverse
  let amount := String.ofList
    (if decimals.isEmpty then grouped else grouped ++ style.decimalSeparator :: decimals)
  let sign := if m.minor < 0 then "-" else ""
  sign ++ (if style.symbolFirst then style.symbol ++ amount else amount ++ style.symbol)

end Money

/-! ## Listed prices -/

/-- Why a text is not a price or number. -/
inductive PriceTextError where
  | invalidPrice (text : String)
  | invalidDecimal (text : String)
  | unknownCurrency (code : String)
  | pricing (error : PricingError)
  deriving DecidableEq, Repr

/-- The message of an error. -/
def PriceTextError.message : PriceTextError → String
  | .invalidPrice text => "Invalid price format: " ++ text
  | .invalidDecimal text => "Invalid decimal value: " ++ text
  | .unknownCurrency code => "Unknown currency code: " ++ code
  | .pricing error => error.message

/-- The currency with this code, in which prices may be listed. -/
def Currency.ofText (code : String) : Except PriceTextError Currency :=
  (Currency.ofListedCode? code).elim (.error (.unknownCurrency code)) .ok

/-- A price is a decimal and a currency code, divided by blanks. -/
def Money.ofText (text : String) : Except PriceTextError Money :=
  match Text.words text.toList with
  | [amount, code] => do
    let amount ← (Decimal.ofText? (String.ofList amount)).elim (.error (.invalidPrice text)) .ok
    let currency ← Currency.ofText (String.ofList code)
    (Money.quantize amount currency).mapError .pricing
  | _ => .error (.invalidPrice ("Expected format 'AMOUNT CURRENCY', got: " ++ text))

/-- A number may have blanks around it. -/
def Decimal.ofListed (text : String) : Except PriceTextError Decimal :=
  (Decimal.ofText? (String.ofList (Text.trimBlank text.toList))).elim
    (.error (.invalidDecimal text)) .ok

end Retail
