import Issuance.Text.Blank

/-!
# Issuance.Claims.Numeral

**Numerals** in text, as people and programs write them: with a sign, with zeros in front, with
low lines between groups of digits, with a point and zeros behind. `Numeral.value?` takes these
away one after another, and what is left must be an integer in its shortest form.
-/

namespace Issuance

namespace Numeral

/-- The sign a numeral begins with, if any, and the rest. -/
def signed (t : Text) : Bool × Text :=
  match t with
  | c :: u => if c = '-' then (true, u) else if c = '+' then (false, u) else (false, t)
  | [] => (false, t)

/-- What follows a zero. Further zeros and low lines count for nothing, but of a row of zeros one
stays, and so does the zero before a point. A minus sign may end the zeros. -/
def afterZeros : Text → Option Text
  | [] => some "0"
  | c :: t =>
    if c = '0' then afterZeros t
    else if c = '_' then afterLowLine t
    else if c = '.' then some ("0." ++ t)
    else if c.isDigit || c = '-' then some (c :: t)
    else none
where
  /-- What follows a low line among zeros, which cannot be the last of them. -/
  afterLowLine : Text → Option Text
    | [] => none
    | c :: t =>
      if c = '0' then afterZeros t
      else if c = '_' then afterLowLine t
      else if c.isDigit || c = '-' then some (c :: t)
      else none

/-- A numeral without zeros in front. It begins with a digit or, once a sign is taken from it, with
a minus sign. -/
def significant? : Text → Option Text
  | c :: t =>
    if c = '0' then afterZeros t else if c.isDigit || c = '-' then some (c :: t) else none
  | [] => none

/-- A numeral without the point and the zeros behind it. -/
def withoutZeroFraction (t : Text) : Text :=
  match Text.cut? (· = '.') t with
  | some (whole, zeros) => if !zeros.isEmpty && zeros.all (· = '0') then whole else t
  | none => t

/-- A numeral without low lines, if each of them stands alone and none at the end. -/
def withoutLowLines (t : Text) : Text :=
  if t.endsWith "_" || t.contains "__" then t else t.filter (· ≠ '_')

/-- The number that a row of digits stands for, which is in its shortest form. -/
def shortest? (t : Text) : Option Nat :=
  match t with
  | [] => none
  | c :: u => if t.all CodePoint.isDigit && (c ≠ '0' || u.isEmpty) then some (Text.digitsValue t)
    else none

/-- The integer that a numeral stands for, with white space around it or without. Two minus signs
do not go together, not even with zeros between them; a plus sign and a minus sign do. -/
def value? (t : Text) : Option Int := do
  let (negative, body) := signed (Text.trimBy CodePoint.isWhiteSpace t)
  let digits ← significant? body
  match withoutLowLines (withoutZeroFraction digits) with
  | [] => none
  | c :: u =>
    if c = '-' then
      let n ← shortest? u
      if negative then none else some (-(n : Int))
    else
      let n ← shortest? (c :: u)
      some (if negative then -(n : Int) else n)

end Numeral

end Issuance
