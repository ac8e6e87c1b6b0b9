import Issuance.Text.Utf8

/-!
# Issuance.Text.Wide

**UTF-16 and UTF-32** in either byte order, as a JSON document may arrive in them. Lone
surrogates pass; an incomplete unit at the end, or a number past the last code point, does not.
-/

namespace Issuance

/-- Which byte of a unit comes first. -/
inductive ByteOrder
  | bigEndian
  | littleEndian
  deriving DecidableEq

namespace Utf16

/-- The 16-bit units of a row of bytes, if it has an even number of them. -/
def units? (order : ByteOrder) : Bytes → Option (List Nat)
  | [] => some []
  | [_] => none
  | a :: b :: bs =>
    let u := match order with
      | .bigEndian => a.toNat * 0x100 + b.toNat
      | .littleEndian => b.toNat * 0x100 + a.toNat
    (units? order bs).map (u :: ·)

/-- Joins each first half of a pair with the second half that follows it. -/
def joinPairs : Text → Text
  | [] => []
  | [c] => [c]
  | c :: d :: t =>
    if c.isLeadSurrogate && d.isTrailSurrogate then CodePoint.ofSurrogates c d :: joinPairs t
    else c :: joinPairs (d :: t)

/-- The text of bytes in UTF-16. -/
def decode? (order : ByteOrder) (bs : Bytes) : Option Text :=
  (units? order bs).map fun us => joinPairs (us.map CodePoint.ofNat)

/-- The bytes of a text in UTF-16 with the high byte first. -/
def encode (t : Text) : Bytes :=
  t.flatMap fun c =>
    let unit (n : Nat) : Bytes := [UInt8.ofNat (n / 0x100), UInt8.ofNat (n % 0x100)]
    if c.value < 0x10000 then unit c.value
    else unit (0xD800 + (c.value - 0x10000) / 0x400) ++ unit (0xDC00 + (c.value - 0x10000) % 0x400)

end Utf16

namespace Utf32

/-- The text of bytes in UTF-32. -/
def decode? (order : ByteOrder) : Bytes → Option Text
  | [] => some []
  | a :: b :: c :: d :: bs =>
    let n := match order with
      | .bigEndian => ((a.toNat * 0x100 + b.toNat) * 0x100 + c.toNat) * 0x100 + d.toNat
      | .littleEndian => ((d.toNat * 0x100 + c.toNat) * 0x100 + b.toNat) * 0x100 + a.toNat
    if n < 0x110000 then (decode? order bs).map (CodePoint.ofNat n :: ·) else none
  | _ => none

end Utf32

end Issuance
