import ChatGateway.Numeral
import ChatGateway.Time.Instant

/-!
# Dates and timestamps

A timestamp is the date and time of an instant in universal time.  Years are
counted from the first of March on the way, so that the leap day is the last day
of its year and the months before it have fixed places.

## Main definitions

* `Date.ofDays` — the date of a number of days since the beginning of 1970.
* `Instant.timestamp` — the text of an instant.
-/

namespace ChatGateway

/-- A day of the Gregorian calendar. -/
structure Date where
  year : Int
  month : Nat
  day : Nat
  deriving DecidableEq, Repr

namespace Date

/-- The number of days in four hundred years. -/
def cycle : Int := 146097

/-- The day of the cycle that starts with March of the year zero. -/
def shift : Int := 719468

/-- The year of a cycle, given the day of the cycle: the days without the leap
days before it, in years. -/
def yearOfCycle (day : Nat) : Nat :=
  (day - day / 1460 + day / 36524 - day / 146096) / 365

/-- The first day of a year of a cycle. -/
def firstOfYear (year : Nat) : Nat :=
  365 * year + year / 4 - year / 100

/-- The first day of a month, counted from March, in a year that starts then. -/
def firstOfMonth (month : Nat) : Nat :=
  (153 * month + 2) / 5

/-- The date of a number of days since the beginning of 1970. -/
def ofDays (days : Int) : Date :=
  let shifted := days + shift
  let day := (shifted % cycle).toNat
  let year := yearOfCycle day
  let dayOfYear := day - firstOfYear year
  let month := (5 * dayOfYear + 2) / 153
  let turned : Int := if month < 10 then 0 else 1
  { year := shifted / cycle * 400 + year + turned
    month := if month < 10 then month + 3 else month - 9
    day := dayOfYear - firstOfMonth month + 1 }

end Date

/-- A number in at least so many digits. -/
def paddedDigits (width n : Nat) : List Char :=
  let ds := decimalDigits n
  List.replicate (width - ds.length) '0' ++ ds

namespace Instant

/-- A year: four digits, with a sign outside the years 0 to 9999. -/
def yearChars (year : Int) : List Char :=
  let sign := if year < 0 then ['-'] else if 9999 < year then ['+'] else []
  sign ++ paddedDigits 4 year.natAbs

/-- The fraction of a second in as few groups of three digits as hold it. -/
def fractionChars (nanos : Nat) : List Char :=
  if nanos = 0 then []
  else if nanos % 1000000 = 0 then '.' :: paddedDigits 3 (nanos / 1000000)
  else if nanos % 1000 = 0 then '.' :: paddedDigits 6 (nanos / 1000)
  else '.' :: paddedDigits 9 nanos

/-- The date and time of an instant in universal time. -/
def timestamp (t : Instant) : String :=
  let date := Date.ofDays (t.seconds / 86400)
  let second := (t.seconds % 86400).toNat
  String.ofList (
    yearChars date.year ++ '-' :: paddedDigits 2 date.month ++ '-' :: paddedDigits 2 date.day
      ++ 'T' :: paddedDigits 2 (second / 3600) ++ ':' :: paddedDigits 2 (second / 60 % 60)
      ++ ':' :: paddedDigits 2 (second % 60) ++ fractionChars t.fraction ++ ['Z'])

end Instant

end ChatGateway
