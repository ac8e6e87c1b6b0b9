import Issuance.Text.CodePoint

/-!
# Issuance.Json.Binary64

**Binary floating-point numbers** of 64 bits, as exact values: a finite one is
`mantissa * 2 ^ exponent / 2 ^ 1074` with a sign. Reading a decimal rounds it to the nearest
such value, and comparing with an integer is exact, so no result depends on a machine's
arithmetic.
-/

namespace Issuance

/-- A finite number in its only form: the mantissa fills its 53 bits unless the exponent is the
smallest. -/
structure Finite64 where
  negative : Bool
  mantissa : Nat
  exponent : Nat
  mantissa_lt : mantissa < Nat.pow 2 53
  exponent_le : exponent ≤ 2045
  normal : exponent = 0 ∨ Nat.pow 2 52 ≤ mantissa
  deriving DecidableEq

/-- The denominator of all finite numbers, `2 ^ 1074`. -/
def Binary64.denominator : Nat := Nat.pow 2 1074

/-- The signed numerator of a finite number over the common denominator. -/
def Finite64.numerator (x : Finite64) : Int :=
  if x.negative then -((x.mantissa * Nat.pow 2 x.exponent : Nat) : Int)
  else ((x.mantissa * Nat.pow 2 x.exponent : Nat) : Int)

/-- A 64-bit floating-point number. -/
inductive Binary64
  | nan
  | infinity (negative : Bool)
  | finite (x : Finite64)
  deriving DecidableEq

namespace Binary64

/-- The quotient rounded to the nearest natural number, a half to the even neighbour. -/
def roundQuotient (num den : Nat) : Nat :=
  let q := num / den
  let r := num % den
  if 2 * r < den then q else if den < 2 * r then q + 1 else q + q % 2

/-- The finite number with these parts, or infinity where there is none. -/
def ofParts (negative : Bool) (mantissa exponent : Nat) : Binary64 :=
  if h : mantissa < Nat.pow 2 53 ∧ exponent ≤ 2045 ∧ (exponent = 0 ∨ Nat.pow 2 52 ≤ mantissa) then
    .finite ⟨negative, mantissa, exponent, h.1, h.2.1, h.2.2⟩
  else .infinity negative

/-- The number nearest to a quotient of natural numbers. -/
def ofRatio (negative : Bool) (num den : Nat) : Binary64 :=
  let scaled := num * denominator
  let whole := scaled / den
  let exponent := if whole = 0 then 0 else whole.log2 + 1 - 53
  let mantissa := roundQuotient scaled (den * Nat.pow 2 exponent)
  if mantissa = Nat.pow 2 53 then ofParts negative (Nat.pow 2 52) (exponent + 1)
  else ofParts negative mantissa exponent

/-- The number nearest to `digits * 10 ^ exponent`. Past the ends of the range it is infinite or
zero, which is decided from the count of digits, without raising ten to the power. -/
def ofDecimal (negative : Bool) (digits : Nat) (exponent : Int) : Binary64 :=
  if digits = 0 then ofParts negative 0 0
  else
    let magnitude : Int := (Text.ofNat digits).length + exponent
    if 310 < magnitude then .infinity negative
    else if magnitude < -330 then ofParts negative 0 0
    else if 0 ≤ exponent then ofRatio negative (digits * Nat.pow 10 exponent.toNat) 1
    else ofRatio negative digits (Nat.pow 10 (-exponent).toNat)

/-- The number is a positive or negative zero. -/
def isZero : Binary64 → Bool
  | .finite x => x.mantissa == 0
  | _ => false

/-- `x ≤ n`. Nothing is comparable with a number that is not one. -/
def atMost (x : Binary64) (n : Int) : Bool :=
  match x with
  | .nan => false
  | .infinity negative => negative
  | .finite x => x.numerator ≤ n * denominator

/-- `n < x`. Nothing is comparable with a number that is not one. -/
def exceeds (x : Binary64) (n : Int) : Bool :=
  match x with
  | .nan => false
  | .infinity negative => !negative
  | .finite x => n * denominator < x.numerator

/-- The integer that a finite number without fraction is. -/
def toInt? : Binary64 → Option Int
  | .finite x =>
    if x.numerator % denominator = 0 then some (x.numerator / denominator) else none
  | _ => none

/-- The greatest integer that is not above a finite number. -/
def floor? : Binary64 → Option Int
  | .finite x => some (x.numerator / denominator)
  | _ => none

end Binary64

end Issuance
