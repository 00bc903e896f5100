import Retail.Assembly.Set
import Retail.Receipt.Text
import Retail.Settings

/-!
# Reports

A report reconciles the scenario of a set and prints the receipts of all its checkouts, then of all
its orders. Where something fails, the receipts before it stay in the report.

## Main definitions

* `Settings.path`: where the documents of a set are kept
* `Scenario.receipts`: the receipts of a scenario
* `Report`: what is printed, and what failed
* `Report.ofSet`: the report on a set of documents
-/

namespace Retail

/-- A path behind another one; a path from the root stands alone. -/
def joinPath (base path : String) : String :=
  if path.startsWith "/" then path
  else if base.endsWith "/" then base ++ path
  else base ++ "/" ++ path

/-- Where a document of the set is kept. -/
def Settings.path (settings : Settings) (kind : ManifestKind) : String :=
  joinPath (joinPath settings.fixturesDir kind.label) (settings.set ++ ".yml")

/-- Why a report is not complete. -/
inductive ReportError where
  | load (error : LoadError)
  | reconcile (error : ReconcileError)
  | receipt (error : ReceiptError)
  deriving DecidableEq, Repr

namespace Scenario

/-- The receipt of a checkout in writing. -/
def checkoutReceipt (catalogue : Catalogue) : String × Checkout → Except ReceiptError String
  | (name, checkout) => do
    let receipt ← Receipt.ofCheckout ("Checkout " ++ name) checkout catalogue
    receipt.text.mapError .pricing

/-- The receipt of an order in writing. -/
def orderReceipt (catalogue : Catalogue) : String × Order → Except ReceiptError String
  | (name, order) => do
    let receipt ← Receipt.ofOrder ("Order " ++ name) order catalogue
    receipt.text.mapError .pricing

/-- The receipts of all checkouts, then of all orders. -/
def receipts (scenario : Scenario) : List (Except ReceiptError String) :=
  scenario.checkouts.map (checkoutReceipt scenario.catalogue)
    ++ scenario.orders.map (orderReceipt scenario.catalogue)

end Scenario

/-- What is printed, and what failed. -/
structure Report where
  text : String
  failure : Option ReportError
  deriving DecidableEq, Repr

namespace Report

/-- The report that fails without a receipt. -/
def failed (error : ReportError) : Report := ⟨"", some error⟩

/-- The receipts up to the first one that fails. -/
def ofReceipts : List (Except ReceiptError String) → Report
  | [] => ⟨"", none⟩
  | .error error :: _ => failed (.receipt error)
  | .ok receipt :: rest =>
    let report := ofReceipts rest
    { report with text := receipt ++ report.text }

/-- The report on a set of documents at a time. -/
def ofSet (documents : ManifestKind → Except LoadError Document) (now : Instant) : Report :=
  match Assembly.ofSet documents with
  | .error error => failed (.load error)
  | .ok assembly =>
    match (Scenario.reconcile now).runOn assembly.scenario with
    | (.error error, _) => failed (.reconcile error)
    | (.ok (), scenario) => ofReceipts scenario.receipts

end Report

end Retail
