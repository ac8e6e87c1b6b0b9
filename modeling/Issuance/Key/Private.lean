import Issuance.Key.Verification

/-!
# Issuance.Key.Private

**Private keys** and their written forms: the form of their own that RSA keys, keys on curves and
keys of the oldest kind have, the general form that names the kind of its key, and PEM blocks of
all of these.
-/

namespace Issuance

/-- A private key, by its kind. -/
inductive PrivateKey
  | rsa (key : Rsa.PrivateKey)
  /-- A key on a curve, by its public point. -/
  | curve (curve : NamedCurve) (x y : Nat)
  /-- A key on an Edwards curve, by its public half. -/
  | edwards (curve : EdwardsCurve) (x : Bytes)
  | other
  deriving DecidableEq

namespace PrivateKey

/-- The key as one that verifies signatures. -/
def verification : PrivateKey → VerificationKey
  | rsa key => .pair (.rsa key.half)
  | curve c x y => .pair (.curve c x y)
  | edwards c x => .pair (.edwards c x)
  | other => .pair .other

/-- An RSA key from its numbers. -/
def ofNumbers? (n : Rsa.Numbers) : Option PrivateKey :=
  if n.areSound then some (.rsa n.key) else none

/-- A key on a curve with a number and the public point that goes with it. -/
def ofNumber? (c : NamedCurve) (number : Nat) (point : Option (Nat × Nat)) : Option PrivateKey :=
  match c.curve.publicPoint? number with
  | none => none
  | some (x, y) => if point.all (· = (x, y)) then some (.curve c x y) else none

/-- A key on an Edwards curve from the bytes that determine it. -/
def ofSeed? (c : EdwardsCurve) (bs : Bytes) : Option PrivateKey :=
  if bs.length = c.size then some (.edwards c (c.publicKey bs)) else none

/-- An RSA key in its own form. -/
def ofRsaForm? (bs : Bytes) : Option PrivateKey := do
  let contents ← Der.only? (Der.sequence? bs)
  let (version, r) ← Der.small? contents
  let (n, r) ← Der.natural? r
  let (e, r) ← Der.natural? r
  let (d, r) ← Der.natural? r
  let (p, r) ← Der.natural? r
  let (q, r) ← Der.natural? r
  let (exponentP, r) ← Der.natural? r
  let (exponentQ, r) ← Der.natural? r
  let coefficient ← Der.only? (Der.natural? r)
  if version = 0 then ofNumbers? ⟨⟨n, e, d⟩, p, q, exponentP, exponentQ, coefficient⟩ else none

/-- What the form of keys on curves holds: the number, on which curve it is, and the point. -/
def curveForm? (bs : Bytes) : Option (Nat × Option CurveParameters × Option Bytes) := do
  let contents ← Der.only? (Der.sequence? bs)
  let (version, r) ← Der.small? contents
  let (number, r) ← Der.octets? r
  let (parameters, r) ← Der.optional? 0xA0 r
  let (point, r) ← Der.optional? 0xA1 r
  let parameters ← match parameters with
    | none => some none
    | some p => (CurveParameters.read? p).map some
  let point ← match point with
    | none => some none
    | some p => (Der.only? (Der.bits? p)).map some
  if version = 1 ∧ r = [] then some (Bytes.toNat number, parameters, point) else none

/-- A key on a curve in the form of such keys. The general form around it may already have said on
which curve it is, and then it must not say otherwise. -/
def ofCurveForm (outer : Option CurveParameters) (bs : Bytes) : Except KeyFault PrivateKey := do
  let (number, inner, point) ← KeyFault.orUnreadable (curveForm? bs)
  let parameters ← KeyFault.orUnreadable (match outer, inner with
    | none, p => p
    | some p, none => some p
    | some p, some q => if p = q then some p else none)
  let curve ← parameters.curve
  match point with
  | none => KeyFault.orUnreadable (ofNumber? curve number none)
  | some encoded => match VerificationKey.ofEncodedPoint? curve encoded with
    | some (.curve _ x y) => KeyFault.orUnreadable (ofNumber? curve number (some (x, y)))
    | _ => .error .unreadable

/-- A key of the oldest kind in its own form: a version and five numbers. -/
def ofPowerForm? (bs : Bytes) : Option PrivateKey := do
  let contents ← Der.only? (Der.sequence? bs)
  let (version, r) ← Der.small? contents
  let (_, r) ← Der.natural? r
  let (_, r) ← Der.natural? r
  let (_, r) ← Der.natural? r
  let (_, r) ← Der.natural? r
  let _ ← Der.only? (Der.natural? r)
  if version = 0 then some .other else none

/-- A key of a kind. A row of bytes of another length than the kind's is not provided for. -/
def ofKind (kind : KeyKind) (key : Bytes) : Except KeyFault PrivateKey :=
  match kind with
  | .rsa => KeyFault.orUnreadable (ofRsaForm? key)
  | .curve parameters => ofCurveForm (some parameters) key
  | .edwards c => match Der.only? (Der.octets? key) with
    | none => .error .unreadable
    | some seed => match ofSeed? c seed with
      | some k => .ok k
      | none => .error .unsupported
  | .raw size => match Der.only? (Der.octets? key) with
    | none => .error .unreadable
    | some bs => if bs.length = size then .ok .other else .error .unsupported
  | .power => if (Der.only? (Der.natural? key)).isSome then .ok .other else .error .unreadable
  | .unknown => .error .unsupported

/-- What follows an attribute of a key: a name with a set of values. -/
def attribute? (bs : Bytes) : Option Bytes := do
  let (contents, rest) ← Der.sequence? bs
  let (_, values) ← Der.identifier? contents
  let values ← Der.only? (Der.set? values)
  if Der.isRowOf (fun v => (Der.any? v).map (·.2.2)) values then some rest else none

/-- The kind and the contents of a key in the general form. -/
def general? (bs : Bytes) : Option (KeyKind × Bytes) := do
  let contents ← Der.only? (Der.sequence? bs)
  let (version, r) ← Der.small? contents
  let (kind, r) ← KeyKind.read? r
  let (key, r) ← Der.octets? r
  let (attributes, r) ← Der.optional? 0xA0 r
  if version = 0 ∧ r = [] ∧ attributes.all (Der.isRowOf attribute?) then some (kind, key) else none

/-- A key in the general form. -/
def ofGeneral (bs : Bytes) : Except KeyFault PrivateKey := do
  let (kind, key) ← KeyFault.orUnreadable (general? bs)
  ofKind kind key

/-- Whether bytes are a key under a password: how it is encrypted, and what it then is. -/
def isEncrypted (bs : Bytes) : Bool :=
  match (Der.only? (Der.sequence? bs)).bind KeyKind.read? with
  | some (_, r) => (Der.only? (Der.octets? r)).isSome
  | none => false

/-- The labels of the blocks of private keys. -/
def labels : List Text :=
  ["PRIVATE KEY", "ENCRYPTED PRIVATE KEY", "RSA PRIVATE KEY", "EC PRIVATE KEY", "DSA PRIVATE KEY"]

/-- A key in the form that the label of its block stands for. -/
def ofLabelled (label : Text) (contents : Bytes) : Except KeyFault PrivateKey :=
  if label = "PRIVATE KEY" then ofGeneral contents
  else if label = "RSA PRIVATE KEY" then KeyFault.orUnreadable (ofRsaForm? contents)
  else if label = "EC PRIVATE KEY" then ofCurveForm none contents
  else if label = "DSA PRIVATE KEY" then KeyFault.orUnreadable (ofPowerForm? contents)
  else if isEncrypted contents then .error .encrypted
  else .error .unreadable

/-- What the header of a block says of how its contents are processed: nothing, that they are
encrypted, and then how, or something that is not provided for. -/
def processing (pem : Pem) : Except KeyFault Unit :=
  match pem.value? "Proc-Type" with
  | none => .ok ()
  | some type =>
    if type ≠ "4,ENCRYPTED" then .error .unreadable
    else match pem.value? "DEK-Info" with
      | some method => if method.contains "," then .error .encrypted else .error .unreadable
      | none => .error .unreadable

/-- The key in a PEM text: that of the first block of a private key, after other blocks or
before, all of which must be sound. -/
def ofPem (t : Text) : Except KeyFault PrivateKey :=
  match (Pem.readAll? t).bind fun pems => pems.find? fun p => labels.contains p.label with
  | none => .error .unreadable
  | some pem => do
    processing pem
    ofLabelled pem.label pem.contents

end PrivateKey

end Issuance
