import Retail.Document.Reader
import Retail.Report
import Std.Time.DateTime.Timestamp

/-!
# The command line

Reads the documents of a set, reconciles it and prints the receipts.

## Main definitions

* `main`: the program
-/

namespace Retail

/-- The document at a path, if it is there and can be read. -/
def readDocument (settings : Settings) (kind : ManifestKind) :
    IO (Except LoadError Document) := do
  try
    let text ← IO.FS.readFile (settings.path kind)
    return (Document.ofText? text).elim (.error (.malformed kind)) .ok
  catch _ =>
    return .error (.missingDocument kind)

/-- The current time. -/
def currentInstant : IO Instant := do
  let now ← Std.Time.Timestamp.now
  return ⟨now.toNanosecondsSinceUnixEpoch.val⟩

/-- Prints the report on a set. -/
def printReport (settings : Settings) : IO UInt32 := do
  let channels ← readDocument settings .channels
  let catalogue ← readDocument settings .catalogue
  let promotions ← readDocument settings .promotions
  let vouchers ← readDocument settings .vouchers
  let orders ← readDocument settings .orders
  let now ← match settings.now with
    | some now => pure now
    | none => currentInstant
  let report := Report.ofSet (fun
    | .channels => channels
    | .catalogue => catalogue
    | .promotions => promotions
    | .vouchers => vouchers
    | .orders => orders) now
  IO.print report.text
  match report.failure with
  | none => return 0
  | some _ =>
    IO.eprintln "reconciliation failed"
    return 1

end Retail

/-- Prints the report that the arguments ask for. -/
def main (arguments : List String) : IO UInt32 :=
  match Retail.Settings.ofArguments arguments with
  | .ok settings => Retail.printReport settings
  | .error .displayHelp => return 0
  | .error _ => do
    IO.eprintln "invalid arguments"
    return 2
