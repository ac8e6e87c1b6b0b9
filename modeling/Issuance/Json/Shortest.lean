import Issuance.Json.Binary64

/-!
# Issuance.Json.Shortest

**The shortest decimal** of a floating-point number: of the decimals that read back as the
number, one with the fewest digits, and of those the nearest. `Finite64.shortest` finds it by
trying the two neighbours of the exact value on ever finer decimal grids; `Binary64.text` lays
the digits out.
-/

namespace Issuance

namespace Finite64

/-- The value in units of `2 ^ -1076`, a quarter of the smallest step between two numbers. -/
def quarters (x : Finite64) : Nat := x.mantissa * Nat.pow 2 x.exponent * 4

/-- How far below the value, in quarters, a decimal still reads back as the number: half a step,
and half as much where the steps below are half as wide. -/
def slackBelow (x : Finite64) : Nat :=
  if x.mantissa = Nat.pow 2 52 ∧ 0 < x.exponent then Nat.pow 2 x.exponent
  else 2 * Nat.pow 2 x.exponent

/-- How far above the value, in quarters, a decimal still reads back as the number. -/
def slackAbove (x : Finite64) : Nat := 2 * Nat.pow 2 x.exponent

/-- Whether `num / den`, in units of one, reads back as the magnitude of `x`. The ends of the
interval count if the mantissa is even. -/
def readsBack (x : Finite64) (num den : Nat) : Bool :=
  let v := num * Nat.pow 2 1076
  let low := (x.quarters - x.slackBelow) * den
  let high := (x.quarters + x.slackAbove) * den
  if x.mantissa % 2 = 0 then low ≤ v && v ≤ high else low < v && v < high

/-- The exponent of the leading decimal digit of a positive number below one: `-j` for the
least `j` such that the number times `10 ^ j` is at least one. -/
def smallMagnitude (num den : Nat) : Nat → Nat → Nat
  | 0, j => j
  | fuel + 1, j => if den ≤ num * Nat.pow 10 j then j else smallMagnitude num den fuel (j + 1)

/-- The exponent of the leading decimal digit of a positive number. -/
def magnitude (x : Finite64) : Int :=
  let whole := x.quarters / Nat.pow 2 1076
  if whole = 0 then -(smallMagnitude x.quarters (Nat.pow 2 1076) 330 1 : Nat)
  else ((Text.ofNat whole).length : Int) - 1

/-- The nearest decimal of a grid that reads back: of the value's two neighbours among the
multiples of `10 ^ grid`, those that read back, the nearer, and of two equally near the even. -/
def onGrid? (x : Finite64) (grid : Int) : Option Nat :=
  let (scaleUp, scaleDown) :=
    if 0 ≤ grid then (Nat.pow 10 grid.toNat, 1) else (1, Nat.pow 10 (-grid).toNat)
  let num := x.quarters * scaleDown
  let den := Nat.pow 2 1076 * scaleUp
  let c := num / den
  let r := num % den
  let lower := readsBack x (c * scaleUp) scaleDown && 0 < c
  let upper := readsBack x ((c + 1) * scaleUp) scaleDown
  if lower && upper then
    if 2 * r < den then some c
    else if den < 2 * r then some (c + 1)
    else some (c + c % 2)
  else if lower then some c
  else if upper then some (c + 1)
  else none

/-- Tries grids from coarse to fine. -/
def firstGrid (x : Finite64) : Nat → Int → Nat × Int
  | 0, grid => (x.quarters, grid)
  | fuel + 1, grid =>
    match onGrid? x grid with
    | some c => (c, grid)
    | none => firstGrid x fuel (grid - 1)

/-- Digits and exponent of the shortest decimal of a number that is not zero. -/
def shortest (x : Finite64) : Nat × Int := firstGrid x 18 x.magnitude

end Finite64

/-- How a row of significant digits is laid out. -/
structure DecimalLayout where
  /-- Exponents from here on are written with a mark. -/
  positionalBelow : Int
  /-- Exponents from here up are written in full. -/
  positionalFrom : Int
  /-- The fewest digits of a written exponent. -/
  exponentDigits : Nat

namespace DecimalLayout

/-- Numbers from `10 ^ -4` up to, not including, `10 ^ 16` are written in full; other exponents
have a sign and two digits at least. -/
def standard : DecimalLayout where
  positionalBelow := 16
  positionalFrom := -4
  exponentDigits := 2

/-- A text filled up with zeros on the left. -/
def zeroPadded (width : Nat) (t : Text) : Text :=
  List.replicate (width - t.length) ('0' : CodePoint) ++ t

/-- Lays out digits whose first has the given exponent. A number written in full always has a
digit on either side of its point. -/
def write (layout : DecimalLayout) (digits : Text) (exponent : Int) : Text :=
  if layout.positionalFrom ≤ exponent ∧ exponent < layout.positionalBelow then
    if exponent < 0 then
      "0." ++ List.replicate ((-exponent).toNat - 1) ('0' : CodePoint) ++ digits
    else
      let whole := exponent.toNat + 1
      if digits.length ≤ whole then
        digits ++ List.replicate (whole - digits.length) ('0' : CodePoint) ++ ".0"
      else digits.take whole ++ "." ++ digits.drop whole
  else
    let mantissa : Text := match digits with
      | [] => []
      | [d] => [d]
      | d :: ds => d :: "." ++ ds
    let sign : Text := if exponent < 0 then "-" else "+"
    mantissa ++ "e" ++ sign ++ zeroPadded layout.exponentDigits (Text.ofNat exponent.natAbs)

end DecimalLayout

namespace Binary64

/-- The digits of a number without the zeros at its end, which must not be all there is. -/
def significant (t : Text) : Text := (t.reverse.dropWhile (·.value == 0x30)).reverse

/-- The text of a finite number. -/
def finiteText (x : Finite64) : Text :=
  let sign : Text := if x.negative then "-" else []
  if x.mantissa = 0 then sign ++ "0.0"
  else
    let (c, grid) := x.shortest
    let digits := Text.ofNat c
    sign ++ DecimalLayout.standard.write (significant digits) (grid + digits.length - 1)

/-- The texts that stand for numbers without a decimal. -/
structure SpecialNames where
  nan : Text
  infinity : Text

/-- The text of a number. -/
def text (names : SpecialNames) : Binary64 → Text
  | .nan => names.nan
  | .infinity negative => if negative then "-" ++ names.infinity else names.infinity
  | .finite x => finiteText x

end Binary64

end Issuance
