import Issuance.Crypto.Hash

/-!
# Issuance.Crypto.Sha3

**SHA3-256**: the sponge over Keccak's permutation of 25 lanes of 64 bits. The rotations and the
round constants are computed from the walks and the shift register that define them.
-/

namespace Issuance

namespace Keccak

/-- The lanes, with lane `(x, y)` at `x + 5 * y`. -/
abbrev Lanes := Array UInt64

/-- A lane. -/
def lane (a : Lanes) (x y : Nat) : UInt64 := a.getD (x % 5 + 5 * (y % 5)) 0

/-- The lanes that a function of their place gives. -/
def build (f : Nat → Nat → UInt64) : Lanes := Array.ofFn fun (i : Fin 25) => f (i % 5) (i / 5)

/-- A lane turned to the left. -/
def rotate (x : UInt64) (n : Nat) : UInt64 :=
  if n % 64 = 0 then x
  else (x <<< UInt64.ofNat (n % 64)) ||| (x >>> UInt64.ofNat (64 - n % 64))

/-- The places of all lanes but the first, with the rotation of each: step `t` of the walk turns
by the `t + 1`-st triangular number. -/
def rotationWalk : Nat → Nat → Nat → Nat → List (Nat × Nat)
  | 0, _, _, _ => []
  | steps + 1, t, x, y =>
    (x + 5 * y, (t + 1) * (t + 2) / 2) :: rotationWalk steps (t + 1) y ((2 * x + 3 * y) % 5)

/-- The rotation of each lane. -/
def rotations : Array Nat :=
  (rotationWalk 24 0 1 0).foldl (fun a (i, r) => a.set! i r) (Array.replicate 25 0)

/-- The bits that the register of the round constants puts out. -/
def registerBits : Nat → Nat → List Bool
  | 0, _ => []
  | steps + 1, r =>
    (r % 2 == 1) :: registerBits steps (if r * 2 < 256 then r * 2 else (r * 2 % 256) ^^^ 0x71)

/-- The constant of each round: output bit `7 i + j` of the register is bit `2 ^ j - 1`. -/
def roundConstants : List UInt64 :=
  let bits := (registerBits 168 1).toArray
  (List.range 24).map fun i =>
    (List.range 7).foldl (fun c j =>
      if bits.getD (7 * i + j) false then
        c ^^^ ((1 : UInt64) <<< UInt64.ofNat (Nat.pow 2 j - 1))
      else c) 0

/-- One round. -/
def round (a : Lanes) (constant : UInt64) : Lanes :=
  let columns := Array.ofFn fun (x : Fin 5) =>
    lane a x 0 ^^^ lane a x 1 ^^^ lane a x 2 ^^^ lane a x 3 ^^^ lane a x 4
  let mixed := build fun x y =>
    lane a x y ^^^ columns.getD ((x + 4) % 5) 0 ^^^ rotate (columns.getD ((x + 1) % 5) 0) 1
  let turned := build fun x y =>
    let u := (x + 3 * y) % 5
    rotate (lane mixed u x) (rotations.getD (u + 5 * x) 0)
  let bent := build fun x y =>
    lane turned x y ^^^ ((lane turned (x + 1) y ^^^ 0xFFFFFFFFFFFFFFFF) &&& lane turned (x + 2) y)
  bent.modify 0 (· ^^^ constant)

/-- The permutation. -/
def permute (a : Lanes) : Lanes := roundConstants.foldl round a

/-- The number of eight bytes, low byte first. -/
def laneOf (bs : Bytes) : UInt64 := UInt64.ofNat (Bytes.toNat bs.reverse)

/-- Takes in a block. -/
def absorb (a : Lanes) (block : Bytes) : Lanes :=
  let words := ((Bytes.blocks 8 block).map laneOf).toArray
  permute (build fun x y => lane a x y ^^^ words.getD (x + 5 * y) 0)

end Keccak

namespace Sha3

/-- Bytes that one step of SHA3-256 and of SHAKE256 takes in. -/
def rate : Nat := 136

/-- A message made up to whole blocks: the bits that mark the function, zeros, and a last set
bit. -/
def padded (mark : UInt8) (message : Bytes) : Bytes :=
  let missing := rate - message.length % rate
  if missing = 1 then message ++ [mark ||| 0x80]
  else message ++ mark :: List.replicate (missing - 2) 0 ++ [0x80]

/-- The lanes once a message is taken in. -/
def absorbed (mark : UInt8) (message : Bytes) : Keccak.Lanes :=
  (Bytes.blocks rate (padded mark message)).foldl Keccak.absorb (Array.replicate 25 0)

/-- The bytes of the first lanes, each with the low byte first. -/
def output (lanes : Nat) (a : Keccak.Lanes) : Bytes :=
  (a.toList.take lanes).flatMap fun l => (Bytes.ofNat 8 l.toNat).reverse

/-- The digest of a message by SHA3-256. -/
def digest256 (message : Bytes) : Bytes := output 4 (absorbed 0x06 message)

/-- The first 114 bytes that SHAKE256 makes of a message. -/
def shake114 (message : Bytes) : Bytes := (output 15 (absorbed 0x1F message)).take 114

end Sha3

namespace Hash

/-- SHA3-256. -/
def sha3 : Hash := ⟨Sha3.digest256, 32, Sha3.rate⟩

end Hash

end Issuance
