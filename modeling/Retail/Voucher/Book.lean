import Retail.Key
import Retail.Voucher.Basic

/-!
# The book of vouchers

All vouchers and codes, and which customers have used which codes. Codes are found by their texts
in an index.

## Main definitions

* `Vouchers`: the book
* `Vouchers.addCode`: a code entered under a voucher; no two codes share a text
* `Vouchers.findCode?`: the code with a text
* `Vouchers.incrementUsage`, `Vouchers.decrementUsage`: the counter of a code
* `Vouchers.addCustomer`, `Vouchers.removeCustomer`: the customers of a code
* `Vouchers.customerHasUsed`: whether a customer has used a voucher
-/

namespace Retail

/-- All vouchers and codes under their keys, the keys of codes under their texts, and which
customers have used which codes. -/
structure Vouchers where
  vouchers : Registry .voucher Voucher
  codes : Registry .code VoucherCode
  index : List (String × CodeKey)
  customers : List (CodeKey × String)

/-- The largest number that a counter of usage holds. -/
def maxUsage : Nat := 4294967295

namespace Vouchers

/-- The book without vouchers. -/
def empty : Vouchers := ⟨.empty, .empty, [], []⟩

/-- Enters a voucher without codes. -/
def addVoucher (book : Vouchers) (voucher : Voucher) : Vouchers × VoucherKey :=
  ({ book with vouchers := book.vouchers.push voucher }, book.vouchers.nextKey)

/-- What the voucher under a key takes its discount off. -/
def typeOf? (book : Vouchers) (key : VoucherKey) : Option VoucherType :=
  (book.vouchers.get? key).map (·.voucherType)

/-- The code with a text. -/
def findCode? (book : Vouchers) (text : String) : Option CodeKey := lookup book.index text

/-- Enters a code under a voucher and in the index. -/
def addCode (book : Vouchers) (voucher : VoucherKey) (text : String) :
    Except VoucherError (Vouchers × CodeKey) :=
  if !book.vouchers.contains voucher then .error (.voucherNotFound voucher)
  else if (book.findCode? text).isSome then .error (.duplicateCode text)
  else
    let key := book.codes.nextKey
    .ok ({ book with
      codes := book.codes.push ⟨voucher, text, 0, true⟩
      index := book.index ++ [(text, key)] }, key)

/-- The codes of a voucher, in the order in which they were entered. -/
def codesOf (book : Vouchers) (voucher : VoucherKey) : List (CodeKey × VoucherCode) :=
  book.codes.entries.filter (·.2.voucher == voucher)

/-- The book with one of its codes changed. -/
def withCode (book : Vouchers) (key : CodeKey) (f : VoucherCode → VoucherCode) : Vouchers :=
  { book with codes := book.codes.modify key f }

/-- Counts a use of a code, unless its counter has reached the limit; the answer is the new count.
No limit is above what a counter holds, and without a limit the counter stays where it is full. -/
def incrementUsage (book : Vouchers) (key : CodeKey) (limit : Option Nat) :
    Except VoucherError (Vouchers × Nat) :=
  match book.codes.get? key with
  | none => .error (.codeNotFound key)
  | some code =>
    if limit.any (min · maxUsage ≤ code.used) then .error (.notApplicable .usageLimitReached)
    else
      let used := min (code.used + 1) maxUsage
      .ok (book.withCode key ({ · with used }), used)

/-- Takes a use of a code back; the answer is the new count. -/
def decrementUsage (book : Vouchers) (key : CodeKey) : Except VoucherError (Vouchers × Nat) :=
  match book.codes.get? key with
  | none => .error (.codeNotFound key)
  | some code =>
    let used := code.used - 1
    .ok (book.withCode key ({ · with used }), used)

/-- Opens a code for use or closes it. -/
def setCodeActive (book : Vouchers) (key : CodeKey) (active : Bool) :
    Except VoucherError Vouchers :=
  if book.codes.contains key then .ok (book.withCode key ({ · with isActive := active }))
  else .error (.codeNotFound key)

/-- Notes that a customer has used a code; the answer is whether that is new. -/
def addCustomer (book : Vouchers) (key : CodeKey) (email : String) :
    Except VoucherError (Vouchers × Bool) :=
  if !book.codes.contains key then .error (.codeNotFound key)
  else if book.customers.contains (key, email) then .ok (book, false)
  else .ok ({ book with customers := book.customers ++ [(key, email)] }, true)

/-- Forgets that a customer has used a code; the answer is whether that was noted. -/
def removeCustomer (book : Vouchers) (key : CodeKey) (email : String) : Vouchers × Bool :=
  ({ book with customers := book.customers.filter (· != (key, email)) },
    book.customers.contains (key, email))

/-- Whether a customer has used a code of the voucher. -/
def customerHasUsed (book : Vouchers) (voucher : VoucherKey) (email : String) : Bool :=
  book.customers.any fun (key, customer) =>
    customer == email && (book.codes.get? key).any (·.voucher == voucher)

end Vouchers

end Retail
