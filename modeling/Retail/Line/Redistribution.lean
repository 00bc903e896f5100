import Retail.Line.Basic

/-!
# A subtotal discount spread over the lines

Each line takes the share of the discount that its total is of the subtotal, and the last line takes
what is left, so that no minor unit is lost.

## Main definitions

* `redistribute`: spreads a discount over lines and answers the shares
-/

namespace Retail

namespace Redistribution

/-- Spreads what is left of `discount` after `assigned` over the lines. -/
def spread (subtotal discount : Money) :
    Money → List Line → Except PricingError (List Money) × List Line
  | _, [] => (.ok [], [])
  | assigned, [last] =>
    match discount.sub assigned with
    | .error e => (.error e, [last])
    | .ok remainder =>
      match (Line.applyDiscount remainder).runOn last with
      | (.error e, last) => (.error e, [last])
      | (.ok (), last) => (.ok [remainder], [last])
  | assigned, line :: next :: rest =>
    match discount.share line.totalPrice subtotal with
    | .error e => (.error e, line :: next :: rest)
    | .ok share =>
      match (Line.applyDiscount share).runOn line with
      | (.error e, line) => (.error e, line :: next :: rest)
      | (.ok (), line) =>
        match assigned.add share with
        | .error e => (.error e, line :: next :: rest)
        | .ok assigned =>
          match spread subtotal discount assigned (next :: rest) with
          | (.error e, lines) => (.error e, line :: lines)
          | (.ok shares, lines) => (.ok (share :: shares), line :: lines)

end Redistribution

/-- Spreads a discount of `subtotal` over the lines in proportion to their totals; the answer is the
shares. -/
def redistribute (subtotal discount : Money) : Step (List Line) PricingError (List Money) :=
  .of (Redistribution.spread subtotal discount (.zero discount.currency))

end Retail
