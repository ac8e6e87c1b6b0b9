import Issuance.Text.Utf8

/-!
# Issuance.Bytes.Basic

Rows of bytes as numbers, high byte first, and the bytewise exclusive or.
-/

namespace Issuance

namespace Bytes

/-- The number whose digits in base 256 are the bytes. -/
def toNat (bs : Bytes) : Nat := bs.foldl (fun n b => n * 256 + b.toNat) 0

/-- The last `length` digits of a number in base 256. -/
def ofNat : Nat → Nat → Bytes
  | 0, _ => []
  | length + 1, n => ofNat length (n / 256) ++ [UInt8.ofNat (n % 256)]

@[simp] theorem length_ofNat (length n : Nat) : (ofNat length n).length = length := by
  induction length generalizing n with
  | zero => rfl
  | succ k ih => simp [ofNat, ih]

/-- How many bytes a number takes; zero takes none. -/
def width (n : Nat) : Nat := (n.log2 + 8) / 8 - (if n = 0 then 1 else 0)

/-- Bytewise exclusive or, as long as the shorter row. -/
def xor (a b : Bytes) : Bytes := List.zipWith (· ^^^ ·) a b

/-- The bytes of an ASCII text; other code points do not occur in it. -/
def ofAscii (t : Text) : Bytes := t.map fun c => UInt8.ofNat c.value

/-- The text of ASCII bytes. -/
def toAscii (bs : Bytes) : Text := bs.map fun b => CodePoint.ofNat b.toNat

/-- The code points of an ASCII text as bytes, unless one is beyond ASCII. -/
def ofAscii? (t : Text) : Option Bytes := if t.isAscii then some (ofAscii t) else none

/-- The rows of `size` bytes that a row falls into; the last may be shorter. -/
def blocks (size : Nat) (bs : Bytes) : List Bytes :=
  if size = 0 then [] else
  match bs with
  | [] => []
  | b :: rest => (b :: rest).take size :: blocks size ((b :: rest).drop size)
  termination_by bs.length
  decreasing_by simp only [List.length_drop, List.length_cons]; omega

end Bytes

end Issuance
