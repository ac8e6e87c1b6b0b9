import Issuance.Crypto.Modular
import Issuance.Crypto.Sha2
import Issuance.Crypto.Sha3

/-!
# Issuance.Crypto.Edwards

**Signatures on Edwards curves** `a x² + y² = 1 + d x² y²`, of which there are two. Points are
added in extended coordinates, in which `(x, y, z, t)` stands for `(x / z, y / z)` with
`t = x y / z`; the addition has no exceptions. Numbers and points are written with the low byte
first.
-/

namespace Issuance

/-- The Edwards curves for signatures. -/
inductive EdwardsCurve
  | ed25519
  | ed448
  deriving DecidableEq

namespace EdwardsCurve

/-! ### Parameters -/

/-- The prime. -/
def prime : EdwardsCurve → Nat
  | ed25519 => Nat.pow 2 255 - 19
  | ed448 => Nat.pow 2 448 - Nat.pow 2 224 - 1

/-- The order of the base point, a prime. -/
def order : EdwardsCurve → Nat
  | ed25519 => Nat.pow 2 252 + 27742317777372353535851937790883648493
  | ed448 =>
    Nat.pow 2 446 - 13818066809895115352007386748515426880336692474882178609894547503885

/-- The factor of the square of the first coordinate. -/
def a : EdwardsCurve → Nat
  | ed25519 => prime ed25519 - 1
  | ed448 => 1

/-- The factor of the product of the squares. -/
def d : EdwardsCurve → Nat
  | ed25519 => Modular.sub 0 (121665 * Modular.inverse 121666 (prime ed25519)) (prime ed25519)
  | ed448 => prime ed448 - 39081

/-- Bytes of a point or of a number. -/
def size : EdwardsCurve → Nat
  | ed25519 => 32
  | ed448 => 57

/-- The highest bit of a private number. -/
def highBit : EdwardsCurve → Nat
  | ed25519 => 254
  | ed448 => 447

/-- What a private number is a multiple of. -/
def cofactor : EdwardsCurve → Nat
  | ed25519 => 8
  | ed448 => 4

/-- The second coordinate of the base point, of which the first is even. -/
def baseSecond : EdwardsCurve → Nat
  | ed25519 => 4 * Modular.inverse 5 (prime ed25519) % prime ed25519
  | ed448 =>
    298819210078481492676017930443930673437544040154080242095928241372331506189835876003536878655418784733982303233503462500531545062832660

/-- The digest of a private key, two numbers long. -/
def digest (bs : Bytes) : EdwardsCurve → Bytes
  | ed25519 => Hash.sha512.digest bs
  | ed448 => Sha3.shake114 bs

/-- What stands before a message that is signed. -/
def mark : EdwardsCurve → Bytes
  | ed25519 => []
  | ed448 => [0x53, 0x69, 0x67, 0x45, 0x64, 0x34, 0x34, 0x38, 0, 0]

/-- Whether the second coordinate of a point is written as a number below the prime or may be
written as a larger one. -/
def isStrict : EdwardsCurve → Bool
  | ed25519 => false
  | ed448 => true

/-! ### Points -/

/-- A point in extended coordinates. -/
structure Point where
  x : Nat
  y : Nat
  z : Nat
  t : Nat

/-- The neutral point. -/
def zero : Point := ⟨0, 1, 1, 0⟩

/-- The sum of two points. -/
def add (c : EdwardsCurve) (p q : Point) : Point :=
  let m := c.prime
  let xx := p.x * q.x % m
  let yy := p.y * q.y % m
  let tt := c.d * p.t * q.t % m
  let zz := p.z * q.z % m
  let e := Modular.sub ((p.x + p.y) * (q.x + q.y) % m) (xx + yy) m
  let f := Modular.sub zz tt m
  let g := (zz + tt) % m
  let h := Modular.sub yy (c.a * xx) m
  ⟨e * f % m, g * h % m, f * g % m, e * h % m⟩

/-- A multiple of a point. -/
def mul (c : EdwardsCurve) (k : Nat) (p : Point) : Point :=
  if k = 0 then zero
  else
    let half := c.mul (k / 2) p
    let twice := c.add half half
    if k % 2 = 1 then c.add twice p else twice

/-- The point with the opposite first coordinate. -/
def neg (c : EdwardsCurve) (p : Point) : Point :=
  ⟨Modular.sub 0 p.x c.prime, p.y, p.z, Modular.sub 0 p.t c.prime⟩

/-- The number whose digits in base 256 are the bytes, the low one first. -/
def number (bs : Bytes) : Nat := Bytes.toNat bs.reverse

/-- The weight of the top bit of a point in writing. -/
def topWeight (c : EdwardsCurve) : Nat := Nat.pow 2 (8 * c.size - 1)

/-- A point in writing: its second coordinate, with the parity of the first in the top bit. -/
def encode (c : EdwardsCurve) (p : Point) : Bytes :=
  let w := Modular.inverse p.z c.prime
  let x := p.x * w % c.prime
  let y := p.y * w % c.prime
  (Bytes.ofNat c.size (y + x % 2 * c.topWeight)).reverse

/-- The point with a second coordinate and a parity of the first. -/
def ofSecond? (c : EdwardsCurve) (y : Nat) (odd : Bool) : Option Point :=
  let m := c.prime
  let yy := y * y % m
  let xx := Modular.sub yy 1 m * Modular.inverse (Modular.sub (c.d * yy) c.a m) m % m
  (Modular.sqrt? xx m).map fun r =>
    let x := if (r % 2 == 1) = odd then r else Modular.sub 0 r m
    ⟨x, y, 1, x * y % m⟩

/-- The point that bytes stand for. -/
def decode? (c : EdwardsCurve) (bs : Bytes) : Option Point :=
  let n := number bs
  let y := n % c.topWeight
  if bs.length ≠ c.size ∨ (c.isStrict ∧ c.prime ≤ y) then none
  else c.ofSecond? (y % c.prime) (c.topWeight ≤ n)

/-- The base point. -/
def base (c : EdwardsCurve) : Point := (c.ofSecond? c.baseSecond false).getD zero

/-! ### Keys and signatures -/

/-- The public key of a private one. -/
def publicKey (c : EdwardsCurve) (secret : Bytes) : Bytes :=
  let n := number ((c.digest secret).take c.size)
  let high := Nat.pow 2 c.highBit
  c.encode (c.mul (high + n % high / c.cofactor * c.cofactor) c.base)

/-- Whether a signature of a message is right under a public key: a point and a number below the
order, such that the number's multiple of the base point is the point plus a multiple of the
key. -/
def verify (c : EdwardsCurve) (key message signature : Bytes) : Bool :=
  let point := signature.take c.size
  let s := number (signature.drop c.size)
  match c.decode? key with
  | none => false
  | some a =>
    let h := number (c.digest (c.mark ++ point ++ key ++ message)) % c.order
    signature.length == 2 * c.size && s < c.order &&
      c.encode (c.add (c.mul s c.base) (c.mul h (c.neg a))) == point

end EdwardsCurve

end Issuance
