import Issuance.Key.Verification

/-!
# Issuance.Key.Algorithm

**Algorithms of signed tokens**, by the names that headers and registrations use. An algorithm
works with keys of one kind; what it makes of a key of another kind is nothing.
-/

namespace Issuance

/-- The kinds of signatures. -/
inductive SignatureScheme
  /-- No signature at all. -/
  | unsigned
  /-- A keyed hash. -/
  | secret
  | rsaPkcs1 (label : Bytes)
  | rsaPss
  /-- A point on one curve. -/
  | curve (expected : NamedCurve)
  | edwards

/-- A named algorithm. -/
structure SigningAlgorithm where
  name : Text
  scheme : SignatureScheme
  hash : Hash

namespace SigningAlgorithm

/-- All algorithms. -/
def all : List SigningAlgorithm :=
  [⟨"none", .unsigned, .sha256⟩,
    ⟨"HS256", .secret, .sha256⟩, ⟨"HS384", .secret, .sha384⟩, ⟨"HS512", .secret, .sha512⟩,
    ⟨"RS256", .rsaPkcs1 Rsa.label256, .sha256⟩, ⟨"RS384", .rsaPkcs1 Rsa.label384, .sha384⟩,
    ⟨"RS512", .rsaPkcs1 Rsa.label512, .sha512⟩,
    ⟨"PS256", .rsaPss, .sha256⟩, ⟨"PS384", .rsaPss, .sha384⟩, ⟨"PS512", .rsaPss, .sha512⟩,
    ⟨"ES256", .curve .p256, .sha256⟩, ⟨"ES256K", .curve .k256, .sha256⟩,
    ⟨"ES384", .curve .p384, .sha384⟩, ⟨"ES512", .curve .p521, .sha512⟩,
    ⟨"ES521", .curve .p521, .sha512⟩, ⟨"EdDSA", .edwards, .sha512⟩]

/-- The algorithm of a name. -/
def find? (name : Text) : Option SigningAlgorithm := all.find? fun a => a.name = name

/-- Whether a signature on a curve is two numbers of the size of the order, one after the other,
that are right. -/
def verifyOnCurve (h : Hash) (curve : NamedCurve) (x y : Nat) (message signature : Bytes) : Bool :=
  let c := curve.curve
  signature.length == 2 * c.size &&
    c.verify h x y message (Bytes.toNat (signature.take c.size))
      (Bytes.toNat (signature.drop c.size))

/-- Whether a signature is right under a key of the algorithm's kind. -/
def verifies (a : SigningAlgorithm) (key : VerificationKey) (message signature : Bytes) : Bool :=
  match a.scheme, key with
  | .secret, .secret k => a.hash.hmac k message == signature
  | .rsaPkcs1 label, .rsa k => Rsa.verifyPkcs1 a.hash label k message signature
  | .rsaPss, .rsa k => Rsa.verifyPss a.hash k message signature
  | .curve _, .curve c x y => verifyOnCurve a.hash c x y message signature
  | .edwards, .edwards c x => c.verify x message signature
  | _, _ => false

end SigningAlgorithm

end Issuance
