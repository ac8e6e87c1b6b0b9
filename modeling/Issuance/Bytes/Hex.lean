import Issuance.Bytes.Basic

/-!
# Issuance.Bytes.Hex

**Hexadecimal notation.** Bytes are written as two small digits each. Reading accepts either
case and lets ASCII white space stand before, between and after the pairs, but never inside one.
-/

namespace Issuance

namespace Hex

/-- Two digits for each byte. -/
def encode (bs : Bytes) : Text :=
  bs.flatMap fun b => [CodePoint.ofHexDigit (b.toNat / 16), CodePoint.ofHexDigit (b.toNat % 16)]

/-- The white space that may separate pairs. -/
def isSeparator (c : CodePoint) : Bool := (0x09 ≤ c.value && c.value ≤ 0x0D) || c.value == 0x20

/-- The bytes that a notation stands for. -/
def decode? : Text → Option Bytes
  | [] => some []
  | [c] => if isSeparator c then some [] else none
  | c :: d :: t =>
    if isSeparator c then decode? (d :: t)
    else match c.hexDigit?, d.hexDigit? with
      | some h, some l => (decode? t).map (UInt8.ofNat (h * 16 + l) :: ·)
      | _, _ => none

/-- Hexadecimal digits of a natural number, without leading zeros. -/
def ofNat (n : Nat) : Text :=
  if n < 16 then [CodePoint.ofHexDigit n] else ofNat (n / 16) ++ [CodePoint.ofHexDigit (n % 16)]

/-- The last `width` hexadecimal digits of a number. -/
def fixed : Nat → Nat → Text
  | 0, _ => []
  | width + 1, n => fixed width (n / 16) ++ [CodePoint.ofHexDigit (n % 16)]

end Hex

end Issuance
