import Issuance.Crypto.Rsa
import Issuance.Key.Kind
import Issuance.Key.Pem

/-!
# Issuance.Key.Verification

**Keys that verify signatures**, and the written forms of the public ones: the numbers of an RSA
key by themselves, the general form that names the kind of its key, and PEM blocks of both.
-/

namespace Issuance

/-- A key that verifies signatures, by its kind. -/
inductive VerificationKey
  | curve (curve : NamedCurve) (x y : Nat)
  | rsa (key : Rsa.PublicKey)
  | secret (key : Bytes)
  | edwards (curve : EdwardsCurve) (x : Bytes)
  /-- A private key, by its public half. -/
  | pair (half : VerificationKey)
  /-- A public key of a kind that no signature here is made with. -/
  | other
  deriving DecidableEq

namespace VerificationKey

/-- A public point, which must lie on its curve. -/
def ofPoint? (curve : NamedCurve) (x y : Nat) : Option VerificationKey :=
  if curve.curve.contains x y then some (.curve curve x y) else none

/-- An RSA key whose exponent is odd, at least three, and below the modulus. -/
def ofRsa? (n e : Nat) : Option VerificationKey :=
  if 3 ≤ e ∧ e % 2 = 1 ∧ e < n then some (.rsa ⟨n, e⟩) else none

/-- The second coordinate of a point, of the parity asked for. -/
def secondCoordinate? (c : Curve) (x : Nat) (odd : Bool) : Option Nat :=
  (Modular.sqrt? ((x * x * x + c.a * x + c.b) % c.prime) c.prime).map fun y =>
    if (y % 2 == 1) = odd then y else c.prime - y

/-- A point in its encoded form: both coordinates, the first and a parity of the second, or all of
these. -/
def ofEncodedPoint? (curve : NamedCurve) : Bytes → Option VerificationKey
  | [] => none
  | form :: bs =>
    let c := curve.curve
    let x := Bytes.toNat (bs.take c.size)
    let y := Bytes.toNat (bs.drop c.size)
    if bs.length = 2 * c.size then
      if form = 4 ∨ form = 6 ∧ y % 2 = 0 ∨ form = 7 ∧ y % 2 = 1 then ofPoint? curve x y else none
    else if bs.length = c.size ∧ (form = 2 ∨ form = 3) then
      (secondCoordinate? c x (form = 3)).bind (ofPoint? curve x)
    else none

/-- An RSA key from its two numbers. -/
def ofRsaNumbers? (bs : Bytes) : Option VerificationKey := do
  let contents ← Der.only? (Der.sequence? bs)
  let (n, r) ← Der.natural? contents
  let e ← Der.only? (Der.natural? r)
  some (.rsa ⟨n, e⟩)

/-- A key of a kind. -/
def ofKind (kind : KeyKind) (key : Bytes) : Except KeyFault VerificationKey :=
  match kind with
  | .rsa => KeyFault.orUnreadable (ofRsaNumbers? key)
  | .curve parameters => do
    let curve ← parameters.curve
    KeyFault.orUnreadable (ofEncodedPoint? curve key)
  | .edwards c => if key.length = c.size then .ok (.edwards c key) else .error .unreadable
  | .raw size => if key.length = size then .ok .other else .error .unreadable
  | .power => if (Der.only? (Der.natural? key)).isSome then .ok .other else .error .unreadable
  | .unknown => .error .unsupported

/-- The kind and the bits of a key in the general form. -/
def general? (bs : Bytes) : Option (KeyKind × Bytes) := do
  let contents ← Der.only? (Der.sequence? bs)
  let (kind, r) ← KeyKind.read? contents
  let key ← Der.only? (Der.bits? r)
  some (kind, key)

/-- A key in the general form. -/
def ofGeneral (bs : Bytes) : Except KeyFault VerificationKey := do
  let (kind, key) ← KeyFault.orUnreadable (general? bs)
  ofKind kind key

/-- A key in the general form or, if it is not one, from its two numbers. -/
def ofDer (bs : Bytes) : Except KeyFault VerificationKey :=
  match ofGeneral bs with
  | .ok key => .ok key
  | .error f => match ofRsaNumbers? bs with
    | some key => .ok key
    | none => .error f

/-- The public key in a PEM text. A block for the numbers of an RSA key may also hold it in the
general form. -/
def ofPem (t : Text) : Except KeyFault VerificationKey :=
  match Pem.read? t with
  | none => .error .unreadable
  | some pem =>
    if pem.label = "PUBLIC KEY" then ofGeneral pem.contents
    else if pem.label = "RSA PUBLIC KEY" then
      match ofRsaNumbers? pem.contents, ofGeneral pem.contents with
      | some key, _ => .ok key
      | none, .ok (.rsa key) => .ok (.rsa key)
      | none, .ok _ => .error .unreadable
      | none, .error f => .error f
    else .error .unreadable

end VerificationKey

end Issuance
