import Issuance.Crypto.Hash

/-!
# Issuance.Crypto.Sha2

The **SHA-2** family. Its members differ in the width of a word, the rotations of their round
functions, the number of rounds and the start, which `Sha2.Variant` collects. The constants are
computed from what they are: the leading fractional bits of the square and cube roots of primes.
-/

namespace Issuance

namespace Sha2

/-! ### Constants from roots of primes -/

/-- The greatest `r` below `start + 2 ^ bits` with `r ^ degree ≤ n`, given that `start` is one
such. -/
def rootFrom (degree n : Nat) : Nat → Nat → Nat
  | 0, start => start
  | bits + 1, start =>
    let r := start + Nat.pow 2 bits
    rootFrom degree n bits (if Nat.pow r degree ≤ n then r else start)

/-- The first `width` bits after the point of the root of a number below a million. -/
def rootFraction (degree width n : Nat) : Nat :=
  rootFrom degree (n * Nat.pow 2 (width * degree)) (width + 20) 0 % Nat.pow 2 width

/-- Whether a number has no divisor from two up to, not including, itself. -/
def isPrime (n : Nat) : Bool := 2 ≤ n && (List.range n).all fun d => d < 2 || n % d != 0

/-- The first eighty primes. -/
def primes : List Nat := ((List.range 410).filter isPrime).take 80

/-! ### The family -/

/-- What distinguishes a member of the family. -/
structure Variant where
  /-- Bits of a word. -/
  width : Nat
  rounds : Nat
  /-- Rotations of the two functions of a round. -/
  bigZero : Nat × Nat × Nat
  bigOne : Nat × Nat × Nat
  /-- Two rotations and a shift for each function of the schedule. -/
  smallZero : Nat × Nat × Nat
  smallOne : Nat × Nat × Nat
  start : List Nat
  /-- Bytes of a digest. -/
  size : Nat

namespace Variant

/-- The constants of the rounds. -/
def constants (v : Variant) : List Nat := (primes.take v.rounds).map (rootFraction 3 v.width)

/-- A word turned to the right. -/
def rotate (v : Variant) (x n : Nat) : Nat :=
  (x >>> n) ||| ((x <<< (v.width - n)) % Nat.pow 2 v.width)

/-- The sum of words. -/
def add (v : Variant) (x y : Nat) : Nat := (x + y) % Nat.pow 2 v.width

/-- The exclusive or of three rotations. -/
def big (v : Variant) (r : Nat × Nat × Nat) (x : Nat) : Nat :=
  v.rotate x r.1 ^^^ v.rotate x r.2.1 ^^^ v.rotate x r.2.2

/-- The exclusive or of two rotations and a shift. -/
def small (v : Variant) (r : Nat × Nat × Nat) (x : Nat) : Nat :=
  v.rotate x r.1 ^^^ v.rotate x r.2.1 ^^^ (x >>> r.2.2)

/-- The schedule of a block, extended word by word. -/
def schedule (v : Variant) (words : List Nat) : Array Nat :=
  (List.range (v.rounds - 16)).foldl (fun w i =>
    let word (k : Nat) : Nat := w.getD k 0
    w.push (v.add (v.add (v.small v.smallOne (word (i + 14))) (word (i + 9)))
      (v.add (v.small v.smallZero (word (i + 1))) (word i)))) words.toArray

end Variant

/-- The eight words of the state. -/
structure State where
  a : Nat
  b : Nat
  c : Nat
  d : Nat
  e : Nat
  f : Nat
  g : Nat
  h : Nat

namespace State

/-- The words in order. -/
def toList (s : State) : List Nat := [s.a, s.b, s.c, s.d, s.e, s.f, s.g, s.h]

/-- A state of eight words. -/
def ofList : List Nat → State
  | [a, b, c, d, e, f, g, h] => ⟨a, b, c, d, e, f, g, h⟩
  | _ => ⟨0, 0, 0, 0, 0, 0, 0, 0⟩

/-- One round, with its constant and word of the schedule. -/
def round (v : Variant) (s : State) (k w : Nat) : State :=
  let choice := (s.e &&& s.f) ^^^ ((s.e ^^^ (Nat.pow 2 v.width - 1)) &&& s.g)
  let majority := (s.a &&& s.b) ^^^ (s.a &&& s.c) ^^^ (s.b &&& s.c)
  let t := v.add (v.add (v.add s.h (v.big v.bigOne s.e)) choice) (v.add k w)
  let u := v.add (v.big v.bigZero s.a) majority
  ⟨v.add t u, s.a, s.b, s.c, v.add s.d t, s.e, s.f, s.g⟩

/-- Takes in a block. -/
def absorb (v : Variant) (constants : List Nat) (s : State) (block : Bytes) : State :=
  let words := (Bytes.blocks (v.width / 8) block).map Bytes.toNat
  let w := (v.schedule words).toList
  let t := (constants.zip w).foldl (fun s kw => s.round v kw.1 kw.2) s
  ofList (List.zipWith v.add s.toList t.toList)

end State

namespace Variant

/-- A message made up to whole blocks: a set bit, zeros, and the count of its bits. -/
def padded (v : Variant) (message : Bytes) : Bytes :=
  let block := v.width * 2
  let tail := v.width / 4
  let zeros := (block - (message.length + 1 + tail) % block) % block
  message ++ 0x80 :: List.replicate zeros 0 ++ Bytes.ofNat tail (message.length * 8)

/-- The digest of a message, given the constants of the rounds. -/
def digestWith (v : Variant) (constants : List Nat) (message : Bytes) : Bytes :=
  let final := (Bytes.blocks (v.width * 2) (v.padded message)).foldl (State.absorb v constants)
    (State.ofList v.start)
  (final.toList.flatMap (Bytes.ofNat (v.width / 8))).take v.size

end Variant

/-- SHA-256. -/
def variant256 : Variant where
  width := 32
  rounds := 64
  bigZero := (2, 13, 22)
  bigOne := (6, 11, 25)
  smallZero := (7, 18, 3)
  smallOne := (17, 19, 10)
  start := (primes.take 8).map (rootFraction 2 32)
  size := 32

/-- SHA-512. -/
def variant512 : Variant where
  width := 64
  rounds := 80
  bigZero := (28, 34, 39)
  bigOne := (14, 18, 41)
  smallZero := (1, 8, 7)
  smallOne := (19, 61, 6)
  start := (primes.take 8).map (rootFraction 2 64)
  size := 64

/-- SHA-384: SHA-512 from another start, and cut. -/
def variant384 : Variant :=
  { variant512 with start := ((primes.drop 8).take 8).map (rootFraction 2 64), size := 48 }

/-- The constants of SHA-256. -/
def constants256 : List Nat := variant256.constants

/-- The constants of SHA-384 and SHA-512. -/
def constants512 : List Nat := variant512.constants

end Sha2

namespace Hash

/-- SHA-256. -/
def sha256 : Hash := ⟨Sha2.variant256.digestWith Sha2.constants256, 32, 64⟩

/-- SHA-384. -/
def sha384 : Hash := ⟨Sha2.variant384.digestWith Sha2.constants512, 48, 128⟩

/-- SHA-512. -/
def sha512 : Hash := ⟨Sha2.variant512.digestWith Sha2.constants512, 64, 128⟩

end Hash

end Issuance
