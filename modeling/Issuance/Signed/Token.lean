import Issuance.Bytes.Base64
import Issuance.Fault
import Issuance.Json.Encoded
import Issuance.Json.Writer
import Issuance.Key.Fit
import Issuance.Key.Jwk

/-!
# Issuance.Signed.Token

A **signed token** is three Base64 segments joined by points: a header, a payload and a signature
over the two segments before it. `SignedToken.parse` takes a token apart without judging it;
`SignedToken.compact` is the form that it reads.

What can go wrong with a token, here and when it is verified, is a `SignedToken.Fault`.
-/

namespace Issuance

namespace SignedToken

/-- Why a token is not accepted. -/
inductive Fault
  | noRequirements
  | material (fault : MaterialFault)
  | segmentCount
  | headerForm
  | headerNotJson
  | headerNotObject
  | payloadForm
  | signatureForm
  /-- The payload is said to stand elsewhere, but there is one. -/
  | payloadPresent
  | keyIdNotText
  | criticalNotList
  | criticalNotText
  | criticalUnsupported (name : Text)
  | criticalMissing (name : Text)
  | detachedNotCritical
  | detachedMissing
  | algorithmMissing
  | algorithmNotAllowed
  | algorithmUnknown
  /-- The algorithm does not take the key. -/
  | key (mismatch : KeyMismatch)
  | signature
  | payloadNotJson
  | payloadNotObject
  | claimMissing (name : Text)
  | issuerNotText
  | issuerMismatch
  | audienceForm
  | audienceMismatch
  | subjectNotText
  | idNotText
  | claimVacant (name : Text)
  | claimNotNumber (name : Text)
  | expired
  | notYetValid
  | issuedLater
  | subjectMismatch
  /-- Nothing provides for such a token. -/
  | unprovided
  deriving DecidableEq

namespace Fault

/-- The most that the details tell of a token that does not pass the common rules. -/
def detailLimit : Nat := 200

/-- The details of a fault in words. -/
def details : Fault → Option Text
  | noRequirements | unprovided => none
  | material f => some ("could not load client public key:" ++ (match f.message? with
    | some m => " " ++ m
    | none => []))
  | segmentCount => some "Not enough segments"
  | headerForm => some "Invalid header padding"
  | headerNotJson => some "Invalid header string:"
  | headerNotObject => some "Invalid header string: must be a json object"
  | payloadForm => some "Invalid payload padding"
  | signatureForm => some "Invalid crypto padding"
  | payloadPresent => some "Payload segment must be empty when 'b64' is false."
  | keyIdNotText => some "Key ID header parameter must be a string"
  | criticalNotList => some "Invalid 'crit' header: must be a non-empty list"
  | criticalNotText => some "Invalid 'crit' header: values must be strings"
  | criticalUnsupported name => limited ("Unsupported critical extension: " ++ name)
  | criticalMissing name =>
    limited ("Critical extension '" ++ name ++ "' is missing from headers")
  | detachedNotCritical =>
    some "The 'b64' header parameter requires 'b64' to be listed in 'crit'."
  | detachedMissing =>
    some ("It is required that you pass in a value for the \"detached_payload\" argument to " ++
      "decode a message having the b64 header set to false.")
  | algorithmMissing => some "Algorithm not specified"
  | algorithmNotAllowed => some "The specified alg value is not allowed"
  | algorithmUnknown => some "Algorithm not supported"
  | key mismatch => mismatch.message?
  | signature => some "Signature verification failed"
  | payloadNotJson => some "Invalid payload string:"
  | payloadNotObject => some "Invalid payload string: must be a json object"
  | claimMissing name => limited ("Token is missing the \"" ++ name ++ "\" claim")
  | issuerNotText => some "Payload Issuer (iss) must be a string"
  | issuerMismatch => some "Invalid issuer"
  | audienceForm => some "Invalid claim format in token"
  | audienceMismatch => some "Audience doesn't match"
  | subjectNotText => some "Subject must be a string"
  | idNotText => some "JWT ID must be a string"
  | claimVacant name => some ("Claims-set missing mandatory claim: " ++ name)
  | claimNotNumber name => some (name ++ " claim must be a number")
  | expired => some "Signature has expired"
  | notYetValid => some "The token is not yet valid (nbf)"
  | issuedLater => some "The token is not yet valid (iat)"
  | subjectMismatch => some "unexpected sub claim"
where
  /-- Details that quote the token, cut to the limit. -/
  limited (t : Text) : Option Text := some (t.take detailLimit)

/-- The failure that a fault is to those who asked for the token to be verified. -/
def failure : Fault → Failure
  | unprovided | material .unsupported | key .unprovided => .internal
  | noRequirements => .fault (.plain .tokenVerification "No mandatory claims provided")
  | f => .fault ⟨.tokenVerification, "JWT verification failed", f.details, none⟩

end Fault

end SignedToken

/-- A token taken apart. -/
structure SignedToken where
  header : List (Text × Json)
  payload : Bytes
  signature : Bytes
  /-- The first two segments as they were received, which the signature covers. -/
  signed : Text
  deriving DecidableEq

namespace SignedToken

/-- A header parameter. -/
def parameter? (t : SignedToken) (name : Text) : Option Json := Json.field? t.header name

/-- Whether the payload is said to stand elsewhere. -/
def isDetached (header : List (Text × Json)) : Bool :=
  Json.field? header "b64" == some (Json.bool false)

/-- The members of the header in a segment. -/
def headerMembers (segment : Text) : Except Fault (List (Text × Json)) :=
  match Base64.decodeStrictUrl? segment with
  | none => .error .headerForm
  | some bs => match Json.ofBytes bs with
    | .error _ => .error .headerNotJson
    | .ok (.obj members) => .ok members
    | .ok _ => .error .headerNotObject

/-- The bytes of a segment. -/
def segment (fault : Fault) (t : Text) : Except Fault Bytes :=
  match Base64.decodeStrictUrl? t with
  | some bs => .ok bs
  | none => .error fault

/-- The segments of a token: what stands before the first point, after the last, and between. -/
def segments? (token : Text) : Option (Text × Text × Text) :=
  match Text.pieces (· = '.') token with
  | header :: second :: rest =>
    match rest.getLast? with
    | none => none
    | some signature =>
      some (header, Text.joined "." (second :: rest.dropLast), signature)
  | _ => none

/-- Takes a token apart. A lone surrogate, which no encoding of a token has, is not provided
for. -/
def parse (token : Text) : Except Fault SignedToken :=
  if token.any CodePoint.isSurrogate then .error .unprovided
  else match segments? token with
  | none => .error .segmentCount
  | some (header, payload, signature) => do
    let members ← headerMembers header
    if isDetached members && !payload.isEmpty then .error .payloadPresent
    let payloadBytes ← segment .payloadForm payload
    let signatureBytes ← segment .signatureForm signature
    .ok ⟨members, payloadBytes, signatureBytes, header ++ "." ++ payload⟩

/-- The bytes that the signature covers. -/
def signedBytes (t : SignedToken) : Bytes := Bytes.ofAscii t.signed

/-- The compact form of a header, a payload and a signature. -/
def compact (header payload signature : Bytes) : Text :=
  Text.joined "." ([header, payload, signature].map Base64.encodeUrl)

end SignedToken

end Issuance
