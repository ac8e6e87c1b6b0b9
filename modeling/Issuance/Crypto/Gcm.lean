import Issuance.Crypto.Aes

/-!
# Issuance.Crypto.Gcm

**AES-256-GCM**: authenticated encryption in counter mode. `Gcm.encrypt` enciphers and computes the
tag, `Gcm.decrypt?` gives the plaintext only under the right tag. The initial value may have any
length; one of twelve bytes is used as it is, any other is hashed.
-/

namespace Issuance

namespace Gcm

/-- The field's polynomial, with the coefficient of `x ^ 0` in the highest bit. -/
def polynomial : Nat := 0xE1 * Nat.pow 2 120

/-- The product in the field of `2 ^ 128` elements: `z` collects, `v` is the second factor times
a power of `x`, one for each bit of the first. -/
def mulFrom (x : Nat) : Nat → Nat → Nat → Nat
  | 0, z, _ => z
  | bits + 1, z, v =>
    mulFrom x bits (if x.testBit bits then z ^^^ v else z)
      (if v.testBit 0 then (v >>> 1) ^^^ polynomial else v >>> 1)

/-- The product in the field. -/
def mul (x y : Nat) : Nat := mulFrom x 128 0 y

/-- A row of bytes filled up with zeros to whole blocks of sixteen. -/
def padded (bs : Bytes) : Bytes := bs ++ List.replicate ((16 - bs.length % 16) % 16) 0

/-- The keyed hash of a row of whole blocks. -/
def ghash (h : Nat) (bs : Bytes) : Nat :=
  (Bytes.blocks 16 bs).foldl (fun y block => mul (y ^^^ Bytes.toNat block) h) 0

/-- The last 32 bits of a block of 128, counted up. -/
def countUp (counter : Nat) : Nat :=
  counter / Nat.pow 2 32 * Nat.pow 2 32 + (counter % Nat.pow 2 32 + 1) % Nat.pow 2 32

/-- Blocks under the key stream that begins at a counter. Doing it twice gives the blocks
back. -/
def stream (keys : List Bytes) : Nat → List Bytes → Bytes
  | _, [] => []
  | counter, block :: blocks =>
    Bytes.xor block (Aes.encipher keys (Bytes.ofNat 16 counter)) ++
      stream keys (countUp counter) blocks

/-- The first counter for an initial value. -/
def firstCounter (h : Nat) (iv : Bytes) : Nat :=
  if iv.length = 12 then Bytes.toNat iv * Nat.pow 2 32 + 1
  else ghash h (padded iv ++ Bytes.ofNat 16 (iv.length * 8))

/-- The tag of a ciphertext with its additional data. -/
def tag (keys : List Bytes) (h counter : Nat) (additional cipherText : Bytes) : Bytes :=
  let sum := ghash h (padded additional ++ padded cipherText ++
    Bytes.ofNat 8 (additional.length * 8) ++ Bytes.ofNat 8 (cipherText.length * 8))
  Bytes.xor (Bytes.ofNat 16 sum) (Aes.encipher keys (Bytes.ofNat 16 counter))

/-- What a key and an initial value determine: the round keys, the hash key, the first
counter. -/
def setup (key iv : Bytes) : List Bytes × Nat × Nat :=
  let keys := Aes.roundKeys key
  let h := Bytes.toNat (Aes.encipher keys (List.replicate 16 0))
  (keys, h, firstCounter h iv)

/-- The ciphertext and tag of a plaintext. -/
def encrypt (key iv additional plainText : Bytes) : Bytes × Bytes :=
  let (keys, h, counter) := setup key iv
  let cipherText := stream keys (countUp counter) (Bytes.blocks 16 plainText)
  (cipherText, tag keys h counter additional cipherText)

/-- The plaintext of a ciphertext whose tag is right. -/
def decrypt? (key iv additional cipherText authTag : Bytes) : Option Bytes :=
  let (keys, h, counter) := setup key iv
  if tag keys h counter additional cipherText = authTag then
    some (stream keys (countUp counter) (Bytes.blocks 16 cipherText))
  else none

end Gcm

end Issuance
