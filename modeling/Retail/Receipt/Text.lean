import Retail.Money.Text
import Retail.Receipt.Basic
import Retail.Receipt.Table

/-!
# Receipts in writing

A receipt is written as its title, a table of its lines and a summary, in which labels and amounts
are aligned to the right.

## Main definitions

* `Receipt.cells`: the table
* `Receipt.summary`: labels and amounts
* `Receipt.text`: the whole receipt
-/

namespace Retail

open Terminal

namespace Receipt

/-- The first row of the table. -/
def columnTitles : List String :=
  ["", "Item", "Qty", "Unit Price", "Discounted", "Total", "Promotion"]

/-- Texts stand on the left, and numbers and amounts on the right. -/
def columnAlignments : List Terminal.Alignment :=
  [.left, .left, .right, .right, .right, .right, .left]

/-- The row of a line; a unit price that was not discounted is not repeated. -/
def cells (index : Nat) (line : ReceiptLine) : List Cell :=
  let number := toString (index + 1)
  let discounted : Cell :=
    if line.unitPrice = line.undiscountedUnitPrice then { text := "" }
    else { text := line.unitPrice.display, style := .green }
  [{ text := "#" ++ number ++ String.ofList (spaces (3 - number.length)) },
    { text := line.product ++ " (" ++ line.variant ++ ")" },
    { text := toString line.quantity },
    { text := line.undiscountedUnitPrice.display, style := .grey },
    discounted,
    { text := line.total.display },
    { text := "\n".intercalate line.promotions }]

/-- The table of the lines. -/
def lineTable (receipt : Receipt) : List (List Char) :=
  table columnAlignments (columnTitles.map ({ text := ·, style := .bold }))
    (receipt.lines.mapIdx cells)

/-- Percent points with two places. -/
def pointsText (fraction : Decimal) : String :=
  let points := percentPoints fraction
  let digits := Decimal.pointedDigits 2 (points.magnitude * Decimal.tenPow (2 - points.scale))
  String.ofList ((if points.negative then ['-'] else []) ++ digits)

/-- The rows of the summary: labels and amounts. -/
def summary (receipt : Receipt) : Except PricingError (List (String × String)) := do
  let savings ← receipt.savings
  let fraction ← receipt.savingsFraction
  return [(" Subtotal:", receipt.subtotal.display ++ "  "),
      (" Shipping:", receipt.shipping.display ++ "  ")]
    ++ receipt.discounts.map (fun discount =>
      (" " ++ discount.label ++ ":", "-" ++ discount.amount.display ++ "  "))
    ++ [(" \x1b[1mTotal:\x1b[0m", "\x1b[1m" ++ receipt.total.display ++ "  \x1b[0m"),
      (" Savings:", "(" ++ pointsText fraction ++ "%) " ++ savings.display ++ "  ")]

/-- A text with spaces before it, so that `width` characters are visible. -/
def alignRight (width : Nat) (text : String) : List Char :=
  spaces (width - visibleWidth text.toList) ++ text.toList

/-- The lines of the summary. -/
def summaryLines (rows : List (String × String)) : List (List Char) :=
  let widest (texts : List String) : Nat := (texts.map (visibleWidth ·.toList)).foldl max 0
  let labelWidth := widest (rows.map Prod.fst)
  let amountWidth := widest (rows.map Prod.snd)
  rows.map fun (label, amount) =>
    alignRight labelWidth label ++ spaces 2 ++ alignRight amountWidth amount

/-- The whole receipt, with an empty line before and after it. -/
def text (receipt : Receipt) : Except PricingError String := do
  let rows ← receipt.summary
  let head := ("\n \x1b[1m" ++ receipt.title ++ "\x1b[0m\n").toList
  let tableText := colorBorders (['\n'].intercalate receipt.lineTable) ++ ['\n']
  let summaryText := (summaryLines rows).flatMap (· ++ ['\n'])
  return String.ofList (head ++ tableText ++ summaryText ++ ['\n'])

end Receipt

end Retail
