import Issuance.Text.CodePoint

/-!
# Issuance.Claims.Calendar

**Dates** of the Gregorian calendar, years 1 to 9999, with their standard notation
`YYYY-MM-DD` and the date of a count of days since 1970-01-01.
-/

namespace Issuance

namespace Calendar

/-- Every fourth year, except centuries that are not multiples of four hundred. -/
def isLeapYear (year : Nat) : Bool := year % 4 == 0 && (year % 100 != 0 || year % 400 == 0)

/-- How many days a month has; none if there is no such month. -/
def daysInMonth (year month : Nat) : Nat :=
  match month with
  | 1 | 3 | 5 | 7 | 8 | 10 | 12 => 31
  | 4 | 6 | 9 | 11 => 30
  | 2 => if isLeapYear year then 29 else 28
  | _ => 0

/-- Whether three numbers name a date. -/
def isDate (year month day : Nat) : Bool :=
  1 ≤ year && year ≤ 9999 && 1 ≤ day && day ≤ daysInMonth year month

end Calendar

/-- A date. -/
structure Date where
  year : Nat
  month : Nat
  day : Nat
  isDate : Calendar.isDate year month day = true
  deriving DecidableEq

namespace Date

/-- The date that three numbers name. -/
def ofParts? (year month day : Nat) : Option Date :=
  if h : Calendar.isDate year month day = true then some ⟨year, month, day, h⟩ else none

/-- The last `width` decimal digits of a number. -/
def fixedDigits : Nat → Nat → Text
  | 0, _ => []
  | width + 1, n => fixedDigits width (n / 10) ++ [CodePoint.ofNat (0x30 + n % 10)]

/-- The notation `YYYY-MM-DD`. -/
def text (d : Date) : Text :=
  fixedDigits 4 d.year ++ "-" ++ fixedDigits 2 d.month ++ "-" ++ fixedDigits 2 d.day

/-- Reads `YYYY-MM-DD` and gives what follows it. -/
def readPrefix? : Text → Option (Date × Text)
  | a :: b :: c :: d :: p :: e :: f :: q :: g :: h :: rest =>
    if p = '-' ∧ q = '-' ∧ [a, b, c, d, e, f, g, h].all CodePoint.isDigit then
      (ofParts? (Text.digitsValue [a, b, c, d]) (Text.digitsValue [e, f])
        (Text.digitsValue [g, h])).map (·, rest)
    else none
  | _ => none

/-- The date a number of days after 1 March of the year 0. Years are counted from March, so that
a leap day is the last of its year. -/
def ofDaysSinceMarchZero? (days : Nat) : Option Date :=
  let era := days / 146097
  let dayOfEra := days % 146097
  let yearOfEra := (dayOfEra - dayOfEra / 1460 + dayOfEra / 36524 - dayOfEra / 146096) / 365
  let dayOfYear := dayOfEra - (365 * yearOfEra + yearOfEra / 4 - yearOfEra / 100)
  let marchMonth := (5 * dayOfYear + 2) / 153
  let day := dayOfYear - (153 * marchMonth + 2) / 5 + 1
  let month := if marchMonth < 10 then marchMonth + 3 else marchMonth - 9
  let year := yearOfEra + era * 400 + (if month ≤ 2 then 1 else 0)
  ofParts? year month day

/-- The date a number of days after 1970-01-01. -/
def ofDaysSinceEpoch? (days : Int) : Option Date :=
  if 0 ≤ days + 719468 then ofDaysSinceMarchZero? (days + 719468).toNat else none

end Date

end Issuance
