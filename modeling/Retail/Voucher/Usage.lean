import Retail.Step
import Retail.Voucher.Book

/-!
# Redeeming vouchers

A customer redeems a voucher through one of its codes and may release it again.

## Main definitions

* `Vouchers.redeem`: counts a use of a code
* `Vouchers.release`: takes a use of a code back
* `Vouchers.usableCode`: the code that can be redeemed in a channel
-/

namespace Retail

/-- How often each code of the voucher may be used, where that is limited. A limit of zero is no
limit. -/
def Voucher.limit? (voucher : Voucher) : Option Nat := voucher.usageLimit.filter (0 < ·)

namespace Vouchers

/-- Does a change of the book that may fail before it changes anything. -/
def change {α : Type} (f : Vouchers → Except VoucherError (Vouchers × α)) :
    Step Vouchers VoucherError α := .of fun book =>
  match f book with
  | .error e => (.error e, book)
  | .ok (book, answer) => (.ok answer, book)

/-- Counts a use of a code where uses are limited. -/
def countUse (terms : Voucher) (code : CodeKey) : Step Vouchers VoucherError Unit :=
  if terms.limit?.isSome then discard (change (·.incrementUsage code terms.limit?)) else pure ()

/-- Takes a use of a code back where uses are limited. -/
def uncountUse (terms : Voucher) (code : CodeKey) : Step Vouchers VoucherError Unit :=
  if terms.limit?.isSome then discard (change (·.decrementUsage code)) else pure ()

/-- Notes the customer where the voucher is for one use per customer and `track` asks for it. -/
def noteCustomer (terms : Voucher) (code : CodeKey) (email : String) (track : Bool) :
    Step Vouchers VoucherError Unit := do
  if terms.oncePerCustomer && track then
    if !(← change (·.addCustomer code email)) then
      -- The use that was counted before is taken back.
      uncountUse terms code
      throw (.notApplicable .oncePerCustomer)

/-- Closes or opens a code that is for a single use. -/
def setActive (terms : Voucher) (code : CodeKey) (active : Bool) :
    Step Vouchers VoucherError Unit :=
  if terms.singleUse then change fun book => (book.setCodeActive code active).map (·, ())
  else pure ()

/-- Redeems a voucher through a code: counts the use where uses are limited, notes the customer
where the voucher is for one use per customer and `track` asks for it, and closes a code that is for
a single use. -/
def redeem (voucher : VoucherKey) (code : CodeKey) (email : String) (track : Bool) :
    Step Vouchers VoucherError Unit := do
  match (← get).vouchers.get? voucher with
  | none => throw (.voucherNotFound voucher)
  | some terms =>
    countUse terms code
    noteCustomer terms code email track
    setActive terms code false

/-- Takes a use of a code back where uses are limited, and opens a code of a single use. -/
def restore (voucher : VoucherKey) (code : CodeKey) : Step Vouchers VoucherError Unit := do
  match (← get).vouchers.get? voucher with
  | none => throw (.voucherNotFound voucher)
  | some terms =>
    uncountUse terms code
    setActive terms code true

/-- Releases a code: takes its use back where uses are limited, opens a code of a single use and
forgets the customer. Without a code nothing is released. -/
def release (code : Option CodeKey) (voucher : Option VoucherKey) (email : Option String) :
    Step Vouchers VoucherError Unit :=
  code.forM fun code => do
    voucher.forM fun voucher => restore voucher code
    email.forM fun email => modify fun book => (book.removeCustomer code email).1

/-- The active code with a text, if its voucher can be redeemed in the channel at this time. -/
def usableCode (book : Vouchers) (text : String) (channel : ChannelKey) (now : Instant) :
    Except VoucherError CodeKey :=
  let usable := (book.findCode? text).filter fun key =>
    (book.codes.get? key).any fun code =>
      code.isActive && (book.vouchers.get? code.voucher).any (·.isActiveIn channel now)
  usable.elim (.error .invalidPromoCode) .ok

end Vouchers

end Retail
