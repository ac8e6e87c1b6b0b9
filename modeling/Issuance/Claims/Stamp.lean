import Issuance.Claims.Calendar
import Issuance.Claims.Numeral
import Issuance.Json.Arithmetic
import Issuance.Json.Reader

/-!
# Issuance.Claims.Stamp

**Time stamps** that stand for a date, namely the one that begins at that time. A stamp counts
seconds since 1970-01-01, or thousandths of a second if it is large. With a fraction it is a
floating-point number, of which only millionths of a second count.
-/

namespace Issuance

namespace Stamp

/-- Beyond this number a stamp counts thousandths. -/
def threshold : Int := 20000000000

/-- The date that begins after a number of seconds. -/
def dateOfSeconds? (seconds : Int) : Option Date :=
  if seconds % 86400 = 0 then Date.ofDaysSinceEpoch? (seconds / 86400) else none

/-- The date of a stamp without fraction. -/
def dateOfInt? (stamp : Int) : Option Date :=
  if stamp.natAbs ≤ threshold then dateOfSeconds? stamp
  else if stamp % 1000 = 0 then dateOfSeconds? (stamp / 1000) else none

/-- The date of a stamp that is a floating-point number: its seconds are rounded downwards, and
what is left to the nearest millionth. -/
def dateOfNumber? (stamp : Binary64) : Option Date := do
  let isLarge := stamp.exceeds threshold || stamp.neg.exceeds threshold
  let seconds := if isLarge then stamp.div (.ofInt 1000) else stamp
  let whole ← seconds.floor?
  let millionths ← ((seconds.add (.ofInt (-whole))).mul (.ofInt 1000000)).round?
  if millionths % 1000000 = 0 then dateOfSeconds? (whole + millionths / 1000000) else none

/-- The number that digits before a point and what stands behind it make: more digits, and then an
exponent or nothing. -/
def numberOfParts? (negative : Bool) (whole rest : Text) : Option Binary64 := do
  let (fraction, rest) := Json.digits rest
  let exponent ← if rest.isEmpty then some 0 else match Json.exponent? rest with
    | some (e, []) => some e
    | _ => none
  some (Binary64.ofDecimal negative (Text.digitsValue (whole ++ fraction))
    (exponent - fraction.length))

/-- The date of a stamp in digits, which may have a sign, and a point with digits behind it or
without. -/
def dateOfText? (t : Text) : Option Date := do
  let (negative, body) := Numeral.signed t
  let (whole, rest) := Json.digits body
  match whole, rest with
  | [], _ => none
  | _, [] =>
    let n : Int := Text.digitsValue whole
    dateOfInt? (if negative then -n else n)
  | _, c :: rest =>
    if c = '.' then (numberOfParts? negative whole rest).bind dateOfNumber? else none

end Stamp

end Issuance
