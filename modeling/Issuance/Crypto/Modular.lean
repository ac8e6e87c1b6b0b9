import Issuance.Bytes.Basic

/-!
# Issuance.Crypto.Modular

**Arithmetic modulo a number**: powers, inverses and square roots modulo a prime, and a test
whether a number is one.
-/

namespace Issuance

namespace Modular

/-- A power modulo a number, by repeated squaring. -/
def pow (base exponent modulus : Nat) : Nat :=
  if exponent = 0 then 1 % modulus
  else
    let half := pow (base * base % modulus) (exponent / 2) modulus
    if exponent % 2 = 1 then base * half % modulus else half

/-- The inverse modulo a prime. -/
def inverse (a prime : Nat) : Nat := pow (a % prime) (prime - 2) prime

/-- The difference modulo a number. -/
def sub (u v modulus : Nat) : Nat := (u + (modulus - v % modulus)) % modulus

/-- How often a number other than zero can be halved. -/
def twos (n : Nat) : Nat := if n = 0 ∨ n % 2 = 1 then 0 else twos (n / 2) + 1
  termination_by n
  decreasing_by omega

/-- A number halved until it is odd. -/
def oddPart (n : Nat) : Nat := n / Nat.pow 2 (twos n)

/-! ### Primes -/

/-- Whether a row of squares, at most so many, comes to minus one. -/
def reachesMinusOne (modulus : Nat) : Nat → Nat → Bool
  | 0, _ => false
  | count + 1, x => x + 1 == modulus || reachesMinusOne modulus count (x * x % modulus)

/-- Whether a base does not show that an odd number is composite. -/
def isConsistentWith (n base : Nat) : Bool :=
  let x := pow base (oddPart (n - 1)) n
  x == 1 || reachesMinusOne n (twos (n - 1)) x

/-- The bases by which primes are told from composite numbers. -/
def bases : List Nat :=
  [2, 3, 5, 7, 11, 13, 17, 19, 23, 29, 31, 37, 41, 43, 47, 53, 59, 61, 67, 71]

/-- Whether a number is a prime, as far as the bases show: none of them divides it without being
it, and none shows that it is composite. -/
def isPrime (n : Nat) : Bool :=
  2 ≤ n && bases.all fun base => n == base || (n % base != 0 && isConsistentWith n base)

/-! ### Square roots -/

/-- How often a number, at most so often, has to be squared to come to one. -/
def squaringsToOne (prime : Nat) : Nat → Nat → Nat
  | 0, _ => 0
  | count + 1, t => if t = 1 then 0 else squaringsToOne prime count (t * t % prime) + 1

/-- Corrects a root `r` whose square is `t` times too large, where `t` comes to one by fewer than
`m` squarings and `c` by `m` and no fewer: if `t` takes one squaring less than `c`, a factor `c` in
the root makes it take fewer still. -/
def correctRoot (prime : Nat) : Nat → Nat → Nat → Nat → Nat
  | 0, _, _, r => r
  | m + 1, c, t, r =>
    let square := c * c % prime
    if squaringsToOne prime m t = m then
      if m = 0 then r else correctRoot prime m square (t * square % prime) (r * c % prime)
    else correctRoot prime m square t r

/-- The least number that is not a square modulo a prime, among the small ones. -/
def nonSquare (prime : Nat) : Nat :=
  (bases.find? fun b => pow b ((prime - 1) / 2) prime != 1).getD 2

/-- A square root modulo an odd prime, if there is one. -/
def sqrt? (a prime : Nat) : Option Nat :=
  let odd := oddPart (prime - 1)
  let r := correctRoot prime (twos (prime - 1)) (pow (nonSquare prime) odd prime)
    (pow a odd prime) (pow a ((odd + 1) / 2) prime)
  if r * r % prime = a % prime then some r else none

end Modular

end Issuance
