import Issuance.Crypto.StandardCurve
import Issuance.Key.Der

/-!
# Issuance.Key.NamedCurve

**The curves of keys**, as keys refer to them: by the name of a standard curve, or with all the
parameters of a curve written out, which must be those of a curve that may be written so.
-/

namespace Issuance

/-- Why a key in one of its written forms cannot be loaded. -/
inductive KeyFault
  /-- It is not a key in that form. -/
  | unreadable
  /-- It is a key under a password. -/
  | encrypted
  /-- It is a key of a kind that is not provided for. -/
  | unsupported
  deriving DecidableEq

/-- What must be there, or else the key is not readable. -/
def KeyFault.orUnreadable {α : Type} : Option α → Except KeyFault α
  | some x => .ok x
  | none => .error .unreadable

/-- The curves that keys name. -/
inductive NamedCurve
  | p192
  | p224
  | p256
  | p384
  | p521
  | k256
  | brainpool256
  | brainpool384
  | brainpool512
  deriving DecidableEq

namespace NamedCurve

/-- The curve itself. -/
def curve : NamedCurve → Curve
  | p192 => .p192
  | p224 => .p224
  | p256 => .p256
  | p384 => .p384
  | p521 => .p521
  | k256 => .k256
  | brainpool256 => .brainpool256
  | brainpool384 => .brainpool384
  | brainpool512 => .brainpool512

/-- The name of a curve in the messages of a verification. -/
def name : NamedCurve → Text
  | p192 => "secp192r1"
  | p224 => "secp224r1"
  | p256 => "secp256r1"
  | p384 => "secp384r1"
  | p521 => "secp521r1"
  | k256 => "secp256k1"
  | brainpool256 => "brainpoolP256r1"
  | brainpool384 => "brainpoolP384r1"
  | brainpool512 => "brainpoolP512r1"

/-- The object identifier of a curve. -/
def identifier : NamedCurve → Bytes
  | p192 => [0x2A, 0x86, 0x48, 0xCE, 0x3D, 0x03, 0x01, 0x01]
  | p224 => [0x2B, 0x81, 0x04, 0x00, 0x21]
  | p256 => [0x2A, 0x86, 0x48, 0xCE, 0x3D, 0x03, 0x01, 0x07]
  | p384 => [0x2B, 0x81, 0x04, 0x00, 0x22]
  | p521 => [0x2B, 0x81, 0x04, 0x00, 0x23]
  | k256 => [0x2B, 0x81, 0x04, 0x00, 0x0A]
  | brainpool256 => [0x2B, 0x24, 0x03, 0x03, 0x02, 0x08, 0x01, 0x01, 0x07]
  | brainpool384 => [0x2B, 0x24, 0x03, 0x03, 0x02, 0x08, 0x01, 0x01, 0x0B]
  | brainpool512 => [0x2B, 0x24, 0x03, 0x03, 0x02, 0x08, 0x01, 0x01, 0x0D]

/-- All curves. -/
def all : List NamedCurve :=
  [p192, p224, p256, p384, p521, k256, brainpool256, brainpool384, brainpool512]

/-- The number from which the parameters of a curve were derived, for a curve that may be written
out. -/
def seed? : NamedCurve → Option Bytes
  | p256 => some (Bytes.ofNat 20 0xC49D360886E704936A6678E1139D26B7819F7E90)
  | p384 => some (Bytes.ofNat 20 0xA335926AA319A27A1D00896A6773A4827ACDAC73)
  | p521 => some (Bytes.ofNat 20 0xD09E8800291CB85396CC6717393284AAA0DA64BA)
  | _ => none

end NamedCurve

/-- The parameters of a curve, written out. -/
structure CurveDomain where
  version : Nat
  /-- The kind of the field and what determines it. -/
  field : Bytes
  a : Bytes
  b : Bytes
  seed : Option Bytes
  base : Bytes
  order : Nat
  cofactor : Option Nat
  deriving DecidableEq

namespace CurveDomain

/-- The contents of the element that names a prime field. -/
def primeField (prime : Nat) (size : Nat) : Bytes :=
  let digits := Bytes.ofNat size prime
  let digits := if digits.head?.getD 0 < 0x80 then digits else 0 :: digits
  [0x06, 0x07, 0x2A, 0x86, 0x48, 0xCE, 0x3D, 0x01, 0x01, 0x02, UInt8.ofNat digits.length] ++ digits

/-- The parameters of a curve, with the seed. -/
def ofCurve (c : Curve) (seed : Bytes) : CurveDomain where
  version := 1
  field := primeField c.prime c.size
  a := Bytes.ofNat c.size c.a
  b := Bytes.ofNat c.size c.b
  seed := some seed
  base := 4 :: Bytes.ofNat c.size c.baseX ++ Bytes.ofNat c.size c.baseY
  order := c.order
  cofactor := some 1

/-- The curve with these parameters, among those that may be written out. The seed may be left
out, but nothing else. -/
def curve? (d : CurveDomain) : Option NamedCurve :=
  NamedCurve.all.find? fun c => match c.seed? with
    | none => false
    | some seed => d == ofCurve c.curve seed || d == { ofCurve c.curve seed with seed := none }

/-- Reads the contents of the parameters. -/
def ofContents? (contents : Bytes) : Option CurveDomain := do
  let (version, r) ← Der.small? contents
  let (field, r) ← Der.sequence? r
  let (_, determined) ← Der.identifier? field
  let (coefficients, r) ← Der.sequence? r
  let (a, s) ← Der.octets? coefficients
  let (b, s) ← Der.octets? s
  let seed ← if s.isEmpty then some none else (Der.only? (Der.bits? s)).map some
  let (base, r) ← Der.octets? r
  let (order, r) ← Der.natural? r
  let cofactor ← if r.isEmpty then some none else (Der.only? (Der.natural? r)).map some
  if Der.isElement determined then some ⟨version, field, a, b, seed, base, order, cofactor⟩
  else none

end CurveDomain

/-- How a key says on which curve it is. -/
inductive CurveParameters
  | named (identifier : Bytes)
  /-- The curve is that of whoever issued the key. -/
  | inherited
  | explicit (domain : CurveDomain)
  deriving DecidableEq

namespace CurveParameters

/-- Reads the element that says on which curve a key is. -/
def read? (bs : Bytes) : Option CurveParameters :=
  if bs = Der.null then some .inherited
  else match Der.only? (Der.identifier? bs), Der.only? (Der.sequence? bs) with
    | some identifier, _ => some (.named identifier)
    | _, some contents => (CurveDomain.ofContents? contents).map .explicit
    | _, _ => none

/-- The curve. -/
def curve (p : CurveParameters) : Except KeyFault NamedCurve :=
  let found := match p with
    | named identifier => NamedCurve.all.find? fun c => c.identifier = identifier
    | inherited => none
    | explicit domain => domain.curve?
  match found with
  | some c => .ok c
  | none => .error .unsupported

end CurveParameters

end Issuance
