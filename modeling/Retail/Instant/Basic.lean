import Retail.Decimal.Basic

/-!
# Instants

An instant is a number of nanoseconds from the start of 1970 in universal time, in which it is also
written.

## Main definitions

* `Instant`: the instants
* `daysFromCivil`, `civilFromDays`: dates of the Gregorian calendar as numbers of days
* `Instant.within`: whether an instant lies in a window
* `Instant.text`: the written form
-/

namespace Retail

/-- A point in time, as its distance from the start of 1970. -/
structure Instant where
  nanoseconds : Int
  deriving DecidableEq, Repr

namespace Instant

instance : LE Instant := ⟨fun a b => a.nanoseconds ≤ b.nanoseconds⟩

instance (a b : Instant) : Decidable (a ≤ b) :=
  inferInstanceAs (Decidable (a.nanoseconds ≤ b.nanoseconds))

/-- Whether an instant lies in a window that may be open at its end; both ends belong to it. -/
def within (now start : Instant) (finish : Option Instant) : Bool :=
  start ≤ now && finish.all fun finish => now ≤ finish

end Instant

/-! ## The calendar -/

/-- Days from the start of 1970 to a date. Years begin in March, so that a leap day is the last day
of its year. -/
def daysFromCivil (year : Int) (month day : Nat) : Int :=
  let year := if month ≤ 2 then year - 1 else year
  let era := year / 400
  let yearOfEra := year % 400
  let dayOfYear : Int := (153 * ((month + 9) % 12) + 2) / 5 + day - 1
  era * 146097 + (yearOfEra * 365 + yearOfEra / 4 - yearOfEra / 100 + dayOfYear) - 719468

/-- The date that many days after the start of 1970. -/
def civilFromDays (days : Int) : Int × Nat × Nat :=
  let days := days + 719468
  let era := days / 146097
  let dayOfEra := (days % 146097).toNat
  let yearOfEra := (dayOfEra - dayOfEra / 1460 + dayOfEra / 36524 - dayOfEra / 146096) / 365
  let dayOfYear := dayOfEra - (365 * yearOfEra + yearOfEra / 4 - yearOfEra / 100)
  let shifted := (5 * dayOfYear + 2) / 153
  let month := if shifted < 10 then shifted + 3 else shifted - 9
  let day := dayOfYear - (153 * shifted + 2) / 5 + 1
  let year := era * 400 + yearOfEra
  (if month ≤ 2 then year + 1 else year, month, day)

/-- Whether a year of the Gregorian calendar has 366 days. -/
def isLeapYear (year : Int) : Bool := year % 4 == 0 && (year % 100 != 0 || year % 400 == 0)

/-- The number of days of a month, which is numbered from 1. -/
def daysInMonth (year : Int) (month : Nat) : Nat :=
  if month == 2 then if isLeapYear year then 29 else 28
  else if [4, 6, 9, 11].contains month then 30 else 31

namespace Instant

/-! ## Writing -/

/-- The digits behind the point of a second, without zeros at the end. -/
def fractionText (nanosecond : Nat) : List Char :=
  let (scale, value) := Decimal.trimZeros 9 nanosecond
  if scale == 0 then [] else '.' :: Decimal.paddedDigits scale value

/-- The instant in universal time. -/
def text (instant : Instant) : String :=
  let seconds := instant.nanoseconds / 1000000000
  let nanosecond := (instant.nanoseconds % 1000000000).toNat
  let (year, month, day) := civilFromDays (seconds / 86400)
  let second := (seconds % 86400).toNat
  let yearDigits := if year < 0 then '-' :: Decimal.paddedDigits 6 year.natAbs
    else Decimal.paddedDigits 4 year.natAbs
  String.ofList (yearDigits ++ '-' :: Decimal.paddedDigits 2 month
    ++ '-' :: Decimal.paddedDigits 2 day ++ 'T' :: Decimal.paddedDigits 2 (second / 3600)
    ++ ':' :: Decimal.paddedDigits 2 (second / 60 % 60)
    ++ ':' :: Decimal.paddedDigits 2 (second % 60) ++ fractionText nanosecond ++ ['Z'])

end Instant

end Retail
