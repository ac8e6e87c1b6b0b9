import Issuance.Key.Algorithm
import Issuance.Key.Line
import Issuance.Key.Private
import Issuance.Key.Secret

/-!
# Issuance.Key.Fit

**Which keys an algorithm takes.** `SigningAlgorithm.fit` gives the key that an algorithm then
verifies signatures with: its own kind of key as it is, the public half of a private key where the
algorithm has a use for it, and the key that is written down in the bytes of a secret. A keyed hash
takes the secret itself, and for that reason no secret that is a key in writing.
-/

namespace Issuance

/-- Why an algorithm does not take a key. -/
inductive KeyMismatch
  /-- There should be no key at all. -/
  | unsigned
  | secretIsKey
  | secretIsJwk
  | curve (actual expected : NamedCurve)
  /-- It is a key of another kind. -/
  | otherKind
  | notPublicKey
  | notKey
  /-- Nothing provides for this key with this algorithm. -/
  | unprovided
  deriving DecidableEq

namespace KeyMismatch

/-- The mismatch in words, where it has any. -/
def message? : KeyMismatch → Option Text
  | unsigned => some "When alg = \"none\", key value must be None."
  | secretIsKey =>
    some ("The specified key is an asymmetric key or x509 certificate and should not be used " ++
      "as an HMAC secret.")
  | secretIsJwk =>
    some ("The specified key looks like a JWK and should not be used directly as an HMAC " ++
      "secret. Load it via PyJWK / HMACAlgorithm.from_jwk first.")
  | curve actual expected =>
    some ("The key's curve '" ++ actual.name ++ "' does not match the expected curve '" ++
      expected.name ++ "' for this algorithm")
  | otherKind => some "Expected one of"
  | notPublicKey => some "Could not parse the provided public key."
  | notKey => some "Not a public or private key"
  | unprovided => none

end KeyMismatch

namespace KeyFit

/-! ### Keys in writing -/

/-- The public key in the PEM text that bytes stand for. -/
def publicPem (bs : Bytes) : Except KeyFault VerificationKey :=
  KeyFault.orUnreadable (Utf8.decode? bs) >>= VerificationKey.ofPem

/-- The private key in the PEM text that bytes stand for. -/
def privatePem (bs : Bytes) : Except KeyFault VerificationKey :=
  (KeyFault.orUnreadable (Utf8.decode? bs) >>= PrivateKey.ofPem).map PrivateKey.verification

/-- The key in the one-line form that bytes stand for. -/
def line (bs : Bytes) : Except KeyFault VerificationKey := KeyLine.read (Bytes.toAscii bs)

/-- What comes of reading a key for which nothing else is tried. -/
def orUnprovided : Except KeyFault VerificationKey → Except KeyMismatch VerificationKey
  | .ok key => .ok key
  | .error _ => .error .unprovided

/-! ### The kinds of keys that algorithms take -/

/-- A public RSA key; a private one is of the right kind, but does not verify. -/
def takeRsa : VerificationKey → Except KeyMismatch VerificationKey
  | .rsa key => .ok (.rsa key)
  | .pair (.rsa _) => .error .unprovided
  | _ => .error .otherKind

/-- A key on the curve expected. -/
def takeCurve (expected : NamedCurve) : VerificationKey → Except KeyMismatch VerificationKey
  | .curve actual x y | .pair (.curve actual x y) =>
    if actual = expected then .ok (.curve actual x y) else .error (.curve actual expected)
  | _ => .error .otherKind

/-- A key on an Edwards curve. -/
def takeEdwards : VerificationKey → Except KeyMismatch VerificationKey
  | .edwards c x | .pair (.edwards c x) => .ok (.edwards c x)
  | _ => .error .otherKind

/-! ### Keys in the bytes of a secret -/

/-- The public RSA key of a PEM block. -/
def rsaOfPublicPem (bs : Bytes) : Except KeyMismatch VerificationKey :=
  match publicPem bs with
  | .ok key => takeRsa key
  | .error _ => .error .notPublicKey

/-- The RSA key in writing: a line, a private key in a PEM block or, if it is not one of these, a
public one. -/
def rsa (bs : Bytes) : Except KeyMismatch VerificationKey :=
  match if (Bytes.toAscii bs).startsWith "ssh-rsa" then line bs else privatePem bs with
  | .ok key => takeRsa key
  | .error .unreadable => rsaOfPublicPem bs
  | .error _ => .error .unprovided

/-- The key on a curve in writing: a line, a public key in a PEM block or, if it is not one of
these, a private one. -/
def curve (expected : NamedCurve) (bs : Bytes) : Except KeyMismatch VerificationKey :=
  match if (Bytes.toAscii bs).startsWith "ecdsa-sha2-" then line bs else publicPem bs with
  | .ok key => takeCurve expected key
  | .error .unreadable => orUnprovided (privatePem bs) >>= takeCurve expected
  | .error _ => .error .unprovided

/-- The key on an Edwards curve in writing: a public key or a private one in a PEM block, or a
line, as the text says by the words in it. -/
def edwards (bs : Bytes) : Except KeyMismatch VerificationKey :=
  match Utf8.decode? bs with
  | none => .error .unprovided
  | some t =>
    if t.contains "-----BEGIN PUBLIC" then orUnprovided (publicPem bs) >>= takeEdwards
    else if t.contains "-----BEGIN PRIVATE" then orUnprovided (privatePem bs) >>= takeEdwards
    else if t.startsWith "ssh-" then orUnprovided (line bs) >>= takeEdwards
    else .error .notKey

/-- The secret of a keyed hash. -/
def secret (bs : Bytes) : Except KeyMismatch VerificationKey :=
  if Secret.isWrittenKey bs then .error .secretIsKey
  else if Secret.isJwk bs then .error .secretIsJwk
  else .ok (.secret bs)

end KeyFit

namespace SigningAlgorithm

/-- The key that an algorithm verifies signatures with, from the one that is registered. -/
def fit (a : SigningAlgorithm) (key : VerificationKey) : Except KeyMismatch VerificationKey :=
  match a.scheme, key with
  | .unsigned, _ => .error .unsigned
  | .secret, .secret bs => KeyFit.secret bs
  | .rsaPkcs1 _, .secret bs | .rsaPss, .secret bs => KeyFit.rsa bs
  | .curve expected, .secret bs => KeyFit.curve expected bs
  | .edwards, .secret bs => KeyFit.edwards bs
  | .rsaPkcs1 _, .rsa k | .rsaPss, .rsa k => .ok (.rsa k)
  | .curve expected, .curve c x y | .curve expected, .pair (.curve c x y) =>
    KeyFit.takeCurve expected (.curve c x y)
  | .edwards, k => KeyFit.takeEdwards k
  | _, _ => .error .unprovided

end SigningAlgorithm

end Issuance
