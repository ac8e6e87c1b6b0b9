import Issuance.Text.CodePoint

/-!
# Issuance.Text.Utf8

**UTF-8** as a code on lists of bytes. Encoding fails on a lone surrogate, which no UTF-8 text
can hold. Reading comes in three manners that share one step, `Utf8.scalar?`, for the next
well-formed sequence:

* `decode?` accepts well-formed text only;
* `decodeLossy` puts one U+FFFD for each longest beginning of a sequence that goes wrong;
* `decodeWide?` also accepts the three-byte form that a lone surrogate would have.
-/

namespace Issuance

/-- Octets in order. -/
abbrev Bytes := List UInt8

namespace Utf8

/-- The bytes of a code point, its surrogates written as three bytes like their neighbours. -/
def encodePoint (c : CodePoint) : Bytes :=
  let n := c.value
  if n < 0x80 then [UInt8.ofNat n]
  else if n < 0x800 then [UInt8.ofNat (0xC0 + n / 0x40), UInt8.ofNat (0x80 + n % 0x40)]
  else if n < 0x10000 then
    [UInt8.ofNat (0xE0 + n / 0x1000), UInt8.ofNat (0x80 + n / 0x40 % 0x40),
      UInt8.ofNat (0x80 + n % 0x40)]
  else
    [UInt8.ofNat (0xF0 + n / 0x40000), UInt8.ofNat (0x80 + n / 0x1000 % 0x40),
      UInt8.ofNat (0x80 + n / 0x40 % 0x40), UInt8.ofNat (0x80 + n % 0x40)]

/-- The bytes of a text, unless it holds a lone surrogate. -/
def encode? (t : Text) : Option Bytes :=
  if t.any CodePoint.isSurrogate then none else some (t.flatMap encodePoint)

/-- What a first byte asks of the rest: how many bytes follow, the bits it carries, and the
range of the first that follows. The ranges exclude overlong forms, surrogates and numbers past
the last code point. -/
structure Lead where
  following : Nat
  bits : Nat
  low : Nat
  high : Nat

/-- The demands of a first byte of two or more. -/
def lead? (surrogates : Bool) (b : UInt8) : Option Lead :=
  let n := b.toNat
  if 0xC2 ≤ n ∧ n ≤ 0xDF then some ⟨1, n - 0xC0, 0x80, 0xBF⟩
  else if n = 0xE0 then some ⟨2, 0, 0xA0, 0xBF⟩
  else if n = 0xED then some ⟨2, 0xD, 0x80, if surrogates then 0xBF else 0x9F⟩
  else if 0xE1 ≤ n ∧ n ≤ 0xEF then some ⟨2, n - 0xE0, 0x80, 0xBF⟩
  else if n = 0xF0 then some ⟨3, 0, 0x90, 0xBF⟩
  else if 0xF1 ≤ n ∧ n ≤ 0xF3 then some ⟨3, n - 0xF0, 0x80, 0xBF⟩
  else if n = 0xF4 then some ⟨3, 4, 0x80, 0x8F⟩
  else none

/-- Reads the bytes that follow a first byte: the number they complete, or `none` where a byte
is missing or out of range, and in either case what is left. -/
def following : Nat → Nat → Nat → Nat → Bytes → Option Nat × Bytes
  | 0, bits, _, _, bs => (some bits, bs)
  | _ + 1, _, _, _, [] => (none, [])
  | k + 1, bits, low, high, b :: bs =>
    if low ≤ b.toNat ∧ b.toNat ≤ high then
      following k (bits * 0x40 + (b.toNat - 0x80)) 0x80 0xBF bs
    else (none, b :: bs)

/-- The next sequence: its number, or `none` if it is ill-formed, and what is left after the
longest beginning of it that could still have gone well (one byte at least). -/
def scalar? (surrogates : Bool) (b : UInt8) (bs : Bytes) : Option Nat × Bytes :=
  if b.toNat < 0x80 then (some b.toNat, bs)
  else match lead? surrogates b with
    | none => (none, bs)
    | some l => following l.following l.bits l.low l.high bs

theorem length_following_le (k bits low high : Nat) (bs : Bytes) :
    (following k bits low high bs).2.length ≤ bs.length := by
  induction k generalizing bits low high bs with
  | zero => simp [following]
  | succ k ih =>
    cases bs with
    | nil => simp [following]
    | cons b bs =>
      simp only [following]
      split
      · exact Nat.le_trans (ih ..) (by simp)
      · simp

theorem length_scalar?_le (surrogates : Bool) (b : UInt8) (bs : Bytes) :
    (scalar? surrogates b bs).2.length ≤ bs.length := by
  simp only [scalar?]
  split
  · simp
  · split
    · simp
    · exact length_following_le ..

/-- Reads a whole text. Each ill-formed sequence is read as `repair`, if there is one. -/
def decodeWith (surrogates : Bool) (repair : Option CodePoint) : Bytes → Option Text
  | [] => some []
  | b :: bs =>
    match ((scalar? surrogates b bs).1.map CodePoint.ofNat).or repair with
    | none => none
    | some c => (decodeWith surrogates repair (scalar? surrogates b bs).2).map (c :: ·)
  termination_by bs => bs.length
  decreasing_by exact Nat.lt_succ_of_le (length_scalar?_le ..)

/-- The text of well-formed bytes. -/
def decode? (bs : Bytes) : Option Text := decodeWith false none bs

/-- The text of bytes in which lone surrogates may stand in their three-byte form. -/
def decodeWide? (bs : Bytes) : Option Text := decodeWith true none bs

/-- The text of any bytes, with U+FFFD for each sequence that goes wrong. -/
def decodeLossy (bs : Bytes) : Text :=
  (decodeWith false (some (CodePoint.ofNat 0xFFFD)) bs).getD []

end Utf8

end Issuance
