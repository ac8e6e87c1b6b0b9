import Issuance.Crypto.Hash
import Issuance.Crypto.Modular

/-!
# Issuance.Crypto.Rsa

**RSA**: decryption with OAEP padding, and verification of signatures with the two paddings of
signed tokens, PKCS #1 v1.5 and PSS.
-/

namespace Issuance

namespace Rsa

/-- A public key. -/
structure PublicKey where
  modulus : Nat
  exponent : Nat
  deriving DecidableEq

/-- A private key. -/
structure PrivateKey where
  modulus : Nat
  exponent : Nat
  privateExponent : Nat
  deriving DecidableEq

/-- The public half of a private key. -/
def PrivateKey.half (key : PrivateKey) : PublicKey := ⟨key.modulus, key.exponent⟩

/-- The numbers that a private key is written with: its own, the two prime factors of the modulus,
the private exponent modulo one less than each, and the inverse of the second factor modulo the
first. -/
structure Numbers where
  key : PrivateKey
  p : Nat
  q : Nat
  exponentP : Nat
  exponentQ : Nat
  coefficient : Nat
  deriving DecidableEq

namespace Numbers

/-- Whether the numbers fit together. -/
def areSound (n : Numbers) : Bool :=
  let d := n.key.privateExponent
  n.key.exponent % 2 == 1 && n.key.exponent != 1 &&
    n.p % 2 == 1 && n.q % 2 == 1 && n.key.modulus == n.p * n.q &&
    Modular.isPrime n.p && Modular.isPrime n.q &&
    d * n.key.exponent % Nat.lcm (n.p - 1) (n.q - 1) == 1 &&
    n.exponentP == d % (n.p - 1) && n.exponentQ == d % (n.q - 1) &&
    n.coefficient < n.p && n.coefficient * n.q % n.p == 1

/-- The numbers of a key with these prime factors. -/
def ofFactors (key : PrivateKey) (p q : Nat) : Numbers :=
  ⟨key, p, q, key.privateExponent % (p - 1), key.privateExponent % (q - 1), Modular.inverse q p⟩

end Numbers

/-- A root of one other than one and minus one, among a number and its squares, at most so
many. -/
def rootOfOne? (modulus : Nat) : Nat → Nat → Option Nat
  | 0, _ => none
  | count + 1, x =>
    if x != 1 && x + 1 != modulus && x * x % modulus == 1 then some x
    else rootOfOne? modulus count (x * x % modulus)

/-- The numbers of a key, whose factors come from a root of one: a power of any base by a multiple
of what brings all bases to one, halved as often as needed. -/
def numbersOf? (key : PrivateKey) : Option Numbers :=
  let total := key.privateExponent * key.exponent - 1
  let root := Modular.bases.findSome? fun base =>
    rootOfOne? key.modulus (Modular.twos total)
      (Modular.pow base (Modular.oddPart total) key.modulus)
  root.map fun r =>
    let p := Nat.gcd (r + 1) key.modulus
    Numbers.ofFactors key p (key.modulus / p)

/-- Bytes of a number below a modulus. -/
def size (modulus : Nat) : Nat := Bytes.width modulus

/-- The message in a padded block: after the digest of the empty label, zeros and a one. -/
def oaepMessage? (h : Hash) (block : Bytes) : Option Bytes :=
  let seedLength := h.digestSize
  match block with
  | 0 :: rest =>
    let maskedSeed := rest.take seedLength
    let maskedData := rest.drop seedLength
    let seed := Bytes.xor maskedSeed (h.mask maskedData seedLength)
    let data := Bytes.xor maskedData (h.mask seed maskedData.length)
    if data.take seedLength = h.digest [] then
      match (data.drop seedLength).dropWhile (· = 0) with
      | 1 :: message => some message
      | _ => none
    else none
  | _ => none

/-- The message of a ciphertext, which must be as long as the modulus and below it. -/
def decryptOaep? (h : Hash) (key : PrivateKey) (cipherText : Bytes) : Option Bytes :=
  let k := size key.modulus
  let c := Bytes.toNat cipherText
  if cipherText.length = k ∧ c < key.modulus then
    oaepMessage? h (Bytes.ofNat k (Modular.pow c key.privateExponent key.modulus))
  else none

/-- The block that a signature opens to, if the signature is as long as the modulus and below
it. -/
def opened? (key : PublicKey) (signature : Bytes) : Option Nat :=
  let s := Bytes.toNat signature
  if signature.length = size key.modulus ∧ s < key.modulus then
    some (Modular.pow s key.exponent key.modulus)
  else none

/-- Whether a signature with PKCS #1 v1.5 padding is right. `label` names the hash function in
the padded block. -/
def verifyPkcs1 (h : Hash) (label : Bytes) (key : PublicKey) (message signature : Bytes) : Bool :=
  let k := size key.modulus
  let info := label ++ h.digest message
  if k < info.length + 11 then false
  else
    let block := 0 :: 1 :: List.replicate (k - info.length - 3) 0xFF ++ 0 :: info
    opened? key signature == some (Bytes.toNat block)

/-- Whether a signature with PSS padding is right, with a salt as long as a digest. -/
def verifyPss (h : Hash) (key : PublicKey) (message signature : Bytes) : Bool :=
  let bits := key.modulus.log2
  let length := (bits + 7) / 8
  match opened? key signature with
  | none => false
  | some m =>
    if Nat.pow 2 bits ≤ m || length < 2 * h.digestSize + 2 then false
    else
      let block := Bytes.ofNat length m
      let maskedData := block.take (length - h.digestSize - 1)
      let sum := (block.drop (length - h.digestSize - 1)).take h.digestSize
      let data := Bytes.xor maskedData (h.mask sum maskedData.length)
      -- The bits above the block's own are no part of the data.
      let data := Bytes.ofNat data.length
        (Bytes.toNat data % Nat.pow 2 (bits - 8 * (h.digestSize + 1)))
      let salt := data.drop (data.length - h.digestSize)
      block.getLastD 0 == 0xBC &&
        data.take (data.length - h.digestSize) ==
          List.replicate (data.length - h.digestSize - 1) 0 ++ [1] &&
        h.digest (List.replicate 8 0 ++ h.digest message ++ salt) == sum

/-- The names of the hash functions in padded blocks. -/
def label256 : Bytes :=
  [0x30, 0x31, 0x30, 0x0D, 0x06, 0x09, 0x60, 0x86, 0x48, 0x01, 0x65, 0x03, 0x04, 0x02, 0x01, 0x05,
    0x00, 0x04, 0x20]
def label384 : Bytes :=
  [0x30, 0x41, 0x30, 0x0D, 0x06, 0x09, 0x60, 0x86, 0x48, 0x01, 0x65, 0x03, 0x04, 0x02, 0x02, 0x05,
    0x00, 0x04, 0x30]
def label512 : Bytes :=
  [0x30, 0x51, 0x30, 0x0D, 0x06, 0x09, 0x60, 0x86, 0x48, 0x01, 0x65, 0x03, 0x04, 0x02, 0x03, 0x05,
    0x00, 0x04, 0x40]

end Rsa

end Issuance
