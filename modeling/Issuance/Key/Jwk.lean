import Issuance.Bytes.Base64
import Issuance.Json.Reader
import Issuance.Key.Algorithm
import Issuance.Key.Private

/-!
# Issuance.Key.Jwk

**JSON Web Keys**, and the **key material** of a client's registration, which is either a PEM
block or a Base64 form of a JSON Web Key.
-/

namespace Issuance

/-- Why key material gives no key. -/
inductive MaterialFault
  | empty
  /-- It begins like a PEM block and is not one of a public key. -/
  | unreadable
  | notBase64Jwk
  | notObject
  | unusable
  /-- It asks for something that no rule provides for. -/
  | unsupported
  deriving DecidableEq

namespace MaterialFault

/-- The fault in words, where it has any. -/
def message? : MaterialFault → Option Text
  | empty => some "public signing key is empty"
  | notBase64Jwk => some "public signing key is not a base64 JWK"
  | notObject => some "public signing key is not a JWK object"
  | unusable => some "unusable JWK:"
  | unreadable | unsupported => none

end MaterialFault

namespace Jwk

/-- The bytes of a member. -/
def bytes? (jwk : Json) (name : Text) : Option Bytes :=
  match jwk.member name with
  | .str t => Base64.decodeLoose? t
  | _ => none

/-- The number of a member. -/
def number? (jwk : Json) (name : Text) : Option Nat := (bytes? jwk name).map Bytes.toNat

/-- Whether a key has a member, whatever its value. -/
def has (jwk : Json) (name : Text) : Bool := (jwk.member? name).isSome

/-- The curves for signatures with points: the name of each in a key, and the algorithm that it
implies. -/
def curves : List (Text × NamedCurve × Text) :=
  [("P-256", .p256, "ES256"), ("P-384", .p384, "ES384"), ("P-521", .p521, "ES512"),
    ("secp256k1", .k256, "ES256K")]

/-- The curve that a key names, with the algorithm that it implies. -/
def curveWithAlgorithm? (jwk : Json) : Option (NamedCurve × Text) :=
  (curves.find? fun (name, _) => jwk.member "crv" = .str name).map fun (_, found) => found

/-- The curve that a key names. -/
def curve? (jwk : Json) : Option NamedCurve := (curveWithAlgorithm? jwk).map fun (c, _) => c

/-- A point, whose coordinates must have the full size of the curve; and the private number that
goes with it, of that size too, if the key has one. -/
def point? (jwk : Json) : Option VerificationKey := do
  let curve ← curve? jwk
  let x ← bytes? jwk "x"
  let y ← bytes? jwk "y"
  let size := curve.curve.size
  if x.length ≠ size ∨ y.length ≠ size then none
  else if has jwk "d" then
    let d ← bytes? jwk "d"
    if d.length = size then
      (PrivateKey.ofNumber? curve (Bytes.toNat d) (some (Bytes.toNat x, Bytes.toNat y))).map
        PrivateKey.verification
    else none
  else VerificationKey.ofPoint? curve (Bytes.toNat x) (Bytes.toNat y)

/-- The members of a private RSA key beside the private exponent, all of which are there or
none. -/
def factorNames : List Text := ["p", "q", "dp", "dq", "qi"]

/-- The numbers of a private RSA key. A key of more than two factors is not provided for. -/
def numbers? (jwk : Json) : Option Rsa.Numbers := do
  let n ← number? jwk "n"
  let e ← number? jwk "e"
  let d ← number? jwk "d"
  if has jwk "oth" ∨ e < 3 ∨ n ≤ e ∨ d ≤ 1 ∨ n ≤ d then none
  else if factorNames.any (has jwk) then
    let p ← number? jwk "p"
    let q ← number? jwk "q"
    let exponentP ← number? jwk "dp"
    let exponentQ ← number? jwk "dq"
    let coefficient ← number? jwk "qi"
    some ⟨⟨n, e, d⟩, p, q, exponentP, exponentQ, coefficient⟩
  else Rsa.numbersOf? ⟨n, e, d⟩

/-- An RSA key, private if it has a private exponent. -/
def rsa? (jwk : Json) : Option VerificationKey := do
  if has jwk "d" then
    let numbers ← numbers? jwk
    (PrivateKey.ofNumbers? numbers).map PrivateKey.verification
  else
    let n ← number? jwk "n"
    let e ← number? jwk "e"
    VerificationKey.ofRsa? n e

/-- The Edwards curve that a key names. -/
def edwardsCurve? (jwk : Json) : Option EdwardsCurve :=
  if jwk.member "crv" = .str "Ed25519" then some .ed25519
  else if jwk.member "crv" = .str "Ed448" then some .ed448
  else none

/-- A point on an Edwards curve; and the bytes that it comes from, if the key has them. -/
def edwards? (jwk : Json) : Option VerificationKey := do
  let curve ← edwardsCurve? jwk
  let x ← bytes? jwk "x"
  if x.length ≠ curve.size then none
  else if has jwk "d" then
    let d ← bytes? jwk "d"
    let key ← PrivateKey.ofSeed? curve d
    if key = .edwards curve x then some key.verification else none
  else some (.edwards curve x)

/-- A result that must be there. -/
def orUnusable : Option VerificationKey → Except MaterialFault VerificationKey
  | some k => .ok k
  | none => .error .unusable

/-- A secret, which must not be empty. -/
def secret (jwk : Json) : Except MaterialFault VerificationKey :=
  match jwk.member? "k", bytes? jwk "k" with
  | none, _ => .error .unsupported
  | some _, some (b :: bs) => .ok (.secret (b :: bs))
  | some _, _ => .error .unusable

/-- The name of the algorithm for a key that comes without one: it is told from the kind of the
key and its curve. -/
def impliedAlgorithm? (jwk : Json) : Option Text :=
  let kind := jwk.member "kty"
  let curve := jwk.member "crv"
  if kind = .str "EC" then
    if curve.isVacant then some "ES256"
    else (curveWithAlgorithm? jwk).map fun (_, algorithm) => algorithm
  else if kind = .str "RSA" then some "RS256"
  else if kind = .str "oct" then some "HS256"
  else if kind = .str "OKP" ∧ curve = .str "Ed25519" then some "EdDSA"
  else none

/-- The key for an algorithm. The kind that the key names must be the algorithm's. -/
def forAlgorithm (jwk : Json) (name : Text) : Except MaterialFault VerificationKey :=
  match SigningAlgorithm.find? name with
  | none => .error .unusable
  | some algorithm =>
    let ofKind (kind : Text) (key : Except MaterialFault VerificationKey) :=
      if jwk.member "kty" = .str kind then key else .error .unusable
    match algorithm.scheme with
    | .unsigned => .error .unsupported
    | .secret => ofKind "oct" (secret jwk)
    | .rsaPkcs1 _ | .rsaPss => ofKind "RSA" (orUnusable (rsa? jwk))
    | .curve _ => ofKind "EC" (orUnusable (point? jwk))
    | .edwards => ofKind "OKP" (orUnusable (edwards? jwk))

/-- The key in a JSON Web Key. The algorithm that it names comes before the one asked for; a
name that is a list or an object is not provided for. -/
def key (jwk : Json) (algorithm : Text) : Except MaterialFault VerificationKey :=
  let named := jwk.member "alg"
  if (jwk.member "kty").isVacant then .error .unusable
  else if named.isVacant then
    if algorithm.isEmpty then
      match impliedAlgorithm? jwk with
      | none => .error .unusable
      | some name => forAlgorithm jwk name
    else forAlgorithm jwk algorithm
  else match named with
    | .str name => forAlgorithm jwk name
    | .arr _ | .obj _ => .error .unsupported
    | _ => .error .unusable

end Jwk

namespace VerificationKey

/-- The key of a registration's key material, for the algorithm that is registered with it. -/
def ofMaterial (material algorithm : Text) : Except MaterialFault VerificationKey :=
  let t := material.trim
  if t.isEmpty then .error .empty
  else if t.startsWith "-----BEGIN" then
    match if t.isAscii then ofPem t else .error .unreadable with
    | .ok key => .ok key
    | .error .unreadable => .error .unreadable
    | .error _ => .error .unsupported
  else match Base64.decode? t with
    | .error _ => .error .notBase64Jwk
    | .ok bs => match (Utf8.decode? bs).bind Json.read? with
      | none => .error .notBase64Jwk
      | some (.obj members) => Jwk.key (.obj members) algorithm
      | some _ => .error .notObject

end VerificationKey

end Issuance
