import Issuance.Json.Binary64

/-!
# Issuance.Json.Arithmetic

**Arithmetic on binary floating-point numbers.** Each operation takes its operands as the exact
values that they are and rounds the exact result once, to the nearest number. What has no finite
value, such as a quotient by zero, is not a number.
-/

namespace Issuance

namespace Binary64

/-- The number nearest to a quotient of which the numerator has a sign. -/
def ofQuotient (num : Int) (den : Nat) : Binary64 := ofRatio (num < 0) num.natAbs den

/-- The number nearest to an integer. -/
def ofInt (i : Int) : Binary64 := ofQuotient i 1

/-- The sum. -/
def add : Binary64 → Binary64 → Binary64
  | .finite x, .finite y => ofQuotient (x.numerator + y.numerator) denominator
  | _, _ => .nan

/-- The number with the other sign. -/
def neg : Binary64 → Binary64
  | .nan => .nan
  | .infinity negative => .infinity (!negative)
  | .finite x => .finite { x with negative := !x.negative }

/-- The product. -/
def mul : Binary64 → Binary64 → Binary64
  | .finite x, .finite y => ofQuotient (x.numerator * y.numerator) (denominator * denominator)
  | _, _ => .nan

/-- The quotient; by an infinite number it is zero. -/
def div : Binary64 → Binary64 → Binary64
  | .finite x, .finite y =>
    if y.mantissa = 0 then .nan
    else ofQuotient (x.numerator * y.numerator.sign) y.numerator.natAbs
  | .finite _, .infinity _ => ofInt 0
  | _, _ => .nan

/-- The integer nearest to a finite number that is not negative, a half upwards. -/
def round? : Binary64 → Option Int
  | .finite x => some ((2 * x.numerator + denominator) / (2 * denominator))
  | _ => none

end Binary64

end Issuance
