import Retail.Document.Number
import Retail.Main
import Retail.Proofs.Again.Assembly
import Retail.Proofs.Announced
import Retail.Proofs.Arithmetic.Scenario
import Retail.Proofs.Discount.Batch
import Retail.Proofs.Discount.Percentage
import Retail.Proofs.Discount.Update
import Retail.Proofs.History.Assembly
import Retail.Proofs.Isolation.Scenario
import Retail.Proofs.Line.Fairness
import Retail.Proofs.Line.History
import Retail.Proofs.Line.Subtotal
import Retail.Proofs.Money.Text
import Retail.Proofs.Order.Failure
import Retail.Proofs.Promotion.Cheapest
import Retail.Proofs.Promotion.Condition
import Retail.Proofs.Promotion.Selection
import Retail.Proofs.Purchase.Assembly
import Retail.Proofs.Receipt.Borders
import Retail.Proofs.Receipt.Rows
import Retail.Proofs.Sync.Convergence
import Retail.Proofs.Sync.Failure
import Retail.Proofs.Sync.Idempotence
import Retail.Proofs.Voucher.Index
import Retail.Proofs.Voucher.Kept
import Retail.Proofs.Voucher.SingleUse
import Retail.Proofs.Voucher.Undone
