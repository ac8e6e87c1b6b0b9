import Issuance.Crypto.Hash
import Issuance.Crypto.Modular

/-!
# Issuance.Crypto.Curve

**Elliptic curves** in short Weierstrass form over prime fields, and **ECDSA** verification on
them. Points are added in Jacobian coordinates, in which `(x, y, z)` stands for
`(x / z², y / z³)` and `z = 0` for the neutral point.
-/

namespace Issuance

/-- A curve `y² = x³ + a x + b` modulo a prime, with a point of prime order. -/
structure Curve where
  prime : Nat
  a : Nat
  b : Nat
  baseX : Nat
  baseY : Nat
  order : Nat
  /-- Bytes of a coordinate. -/
  size : Nat

namespace Curve

/-- A point in Jacobian coordinates. -/
structure Point where
  x : Nat
  y : Nat
  z : Nat

/-- Whether the equation holds of two coordinates below the prime. -/
def contains (c : Curve) (x y : Nat) : Bool :=
  x < c.prime && y < c.prime && (y * y) % c.prime == (x * x * x + c.a * x + c.b) % c.prime

/-- The difference modulo the prime. -/
def sub (c : Curve) (u v : Nat) : Nat := Modular.sub u v c.prime

/-- Twice a point. -/
def double (c : Curve) (p : Point) : Point :=
  if p.z = 0 ∨ p.y = 0 then ⟨1, 1, 0⟩
  else
    let yy := p.y * p.y % c.prime
    let s := 4 * p.x * yy % c.prime
    let zz := p.z * p.z % c.prime
    let m := (3 * p.x * p.x + c.a * (zz * zz)) % c.prime
    let x := c.sub (m * m) (2 * s)
    ⟨x, c.sub (m * c.sub s x) (8 * yy * yy), 2 * p.y * p.z % c.prime⟩

/-- The sum of two points. -/
def add (c : Curve) (p q : Point) : Point :=
  if p.z = 0 then q
  else if q.z = 0 then p
  else
    let pzz := p.z * p.z % c.prime
    let qzz := q.z * q.z % c.prime
    let u := p.x * qzz % c.prime
    let v := q.x * pzz % c.prime
    let s := p.y * (qzz * q.z) % c.prime
    let t := q.y * (pzz * p.z) % c.prime
    if u = v then if s = t then c.double p else ⟨1, 1, 0⟩
    else
      let h := c.sub v u
      let r := c.sub t s
      let hh := h * h % c.prime
      let hhh := hh * h % c.prime
      let x := c.sub (r * r) (hhh + 2 * (u * hh))
      ⟨x, c.sub (r * c.sub (u * hh) x) (s * hhh), h * p.z * q.z % c.prime⟩

/-- A multiple of a point. -/
def mul (c : Curve) (k : Nat) (p : Point) : Point :=
  if k = 0 then ⟨1, 1, 0⟩
  else
    let half := c.double (c.mul (k / 2) p)
    if k % 2 = 1 then c.add half p else half

/-- The coordinates of a point other than the neutral one. -/
def affine? (c : Curve) (p : Point) : Option (Nat × Nat) :=
  if p.z = 0 then none
  else
    let w := Modular.inverse p.z c.prime
    some (p.x * (w * w % c.prime) % c.prime, p.y * (w * w % c.prime * w % c.prime) % c.prime)

/-- The point with the given order. -/
def base (c : Curve) : Point := ⟨c.baseX, c.baseY, 1⟩

/-- The public point of a private number, which must be positive and below the order. -/
def publicPoint? (c : Curve) (k : Nat) : Option (Nat × Nat) :=
  if 0 < k ∧ k < c.order then c.affine? (c.mul k c.base) else none

/-- Whether `(r, s)` is a signature of a message under the public point `(x, y)`. Of a digest
longer than the order the leading bits count. -/
def verify (c : Curve) (h : Hash) (x y : Nat) (message : Bytes) (r s : Nat) : Bool :=
  if r = 0 ∨ s = 0 ∨ c.order ≤ r ∨ c.order ≤ s then false
  else
    let digest := Bytes.toNat (h.digest message)
    let e := digest >>> (h.digestSize * 8 - (c.order.log2 + 1))
    let w := Modular.inverse s c.order
    let sum := c.add (c.mul (e * w % c.order) c.base)
      (c.mul (r * w % c.order) ⟨x, y, 1⟩)
    match c.affine? sum with
    | none => false
    | some (v, _) => v % c.order == r

end Curve

end Issuance
