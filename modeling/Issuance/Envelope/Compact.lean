import Issuance.Bytes.Base64
import Issuance.Crypto.Gcm
import Issuance.Fault
import Issuance.Json.Display
import Issuance.Json.Reader
import Issuance.Key.Ring

/-!
# Issuance.Envelope.Compact

An **envelope** carries a session request under encryption. Its compact form is five Base64
segments joined by points: the protected header, the wrapped content key, the initial value, the
ciphertext and the tag. `Envelope.parse` takes the form apart; `Envelope.encrypt` makes one.

What can go wrong with an envelope, here and when it is opened, is an `Envelope.Fault`.
-/

namespace Issuance

namespace Envelope

/-- The protected header: its members, and the segment as it was received, whose ASCII bytes the
tag covers. -/
structure Header where
  members : List (Text × Json)
  encoded : Text
  deriving DecidableEq

namespace Header

/-- The algorithm that wraps the content key. -/
def algorithm (h : Header) : Json := (Json.obj h.members).member "alg"

/-- The method that encrypts the content. -/
def method (h : Header) : Json := (Json.obj h.members).member "enc"

/-- The data that the tag covers beside the ciphertext. -/
def additional? (h : Header) : Option Bytes := Bytes.ofAscii? h.encoded

end Header

/-- What is wrong with a segment. -/
inductive SegmentFault
  | notBase64
  | notAscii
  /-- The header is not UTF-8. -/
  | notText
  /-- The header is not JSON. -/
  | notJson
  /-- The header is not an object. -/
  | notObject
  deriving DecidableEq

namespace SegmentFault

/-- The name of a fault in details. -/
def label : SegmentFault → Text
  | notBase64 => "Error"
  | notAscii => "UnicodeEncodeError"
  | notText => "UnicodeDecodeError"
  | notJson => "JSONDecodeError"
  | notObject => "ValueError"

/-- A fault of the Base64 form as a fault of its segment. -/
def ofBase64 : Base64.Fault → SegmentFault
  | .notAscii => notAscii
  | .incomplete => notBase64

end SegmentFault

/-- A failed attempt to unwrap a content key: the candidate's name and the name of the
failure. -/
structure Attempt where
  candidate : Text
  error : Text
  deriving DecidableEq

/-- Why an envelope cannot be opened. -/
inductive Fault
  | partCount (count : Nat)
  | malformed (fault : SegmentFault)
  | missingKey
  | missingInitialValue
  | missingTag
  | unsupported (algorithm method : Json)
  | unwrapFailed (keyId : Text)
  | exhausted (attempts : List Attempt)
  | contentKeyLength (length : Nat)
  | tagLength (length : Nat)
  | initialValueLength
  | tagMismatch
  /-- The header's segment is not ASCII, so that there is nothing for the tag to cover. -/
  | headerNotAscii
  deriving DecidableEq

/-- The only pair of algorithms in use. -/
def supportedAlgorithm : Text := "RSA-OAEP-256"
def supportedMethod : Text := "A256GCM"

namespace Fault

/-- The failure that a fault is to those who asked for the envelope to be opened. -/
def failure : Fault → Failure
  | partCount n => parsing ("invalid number of JWE parts encountered: " ++ Text.ofNat n)
  | malformed f => parsing ("malformed JWE segment: " ++ f.label)
  | missingKey => .fault (.plain .decryptionFailed "Missing JWE encrypted key")
  | missingInitialValue =>
    .fault (.plain .decryptionFailed "Missing JWE initialization vector (IV)")
  | missingTag => .fault (.plain .decryptionFailed "Missing JWE authentication tag")
  | unsupported algorithm method =>
    .fault (.detailed .unsupportedAlgorithm "Unsupported JWE algorithm"
      ("alg=" ++ algorithm.quoted ++ " enc=" ++ method.quoted ++ "; supported: " ++
        supportedAlgorithm ++ "/" ++ supportedMethod))
  | unwrapFailed keyId =>
    decryption ("unwrap with key id " ++ keyId ++ " failed: " ++ KeyUnavailable.label)
  | exhausted attempts =>
    .fault (.detailed .decryptionFailed "all key candidates exhausted"
      ("attempted: " ++ Text.joined ", " (attempts.map fun a =>
        a.candidate ++ " (" ++ a.error ++ ")")))
  | contentKeyLength n =>
    decryption ("content encryption key must be 32 bytes, got " ++ Text.ofNat n)
  | tagLength n => decryption ("authentication tag must be 16 bytes, got " ++ Text.ofNat n)
  | initialValueLength => decryption "Nonce must be between 8 and 128 bytes"
  | tagMismatch => decryption "authentication tag mismatch"
  | headerNotAscii => .internal
where
  /-- A fault of the compact form. -/
  parsing (details : Text) : Failure :=
    .fault (.detailed .decryptionFailed "Failed to parse request body" details)
  /-- A fault of the content or its key. -/
  decryption (details : Text) : Failure :=
    .fault (.detailed .decryptionFailed "Decryption failed" details)

end Fault

end Envelope

/-- An envelope taken apart. An empty segment is an absent part; the ciphertext is always
there. -/
structure Envelope where
  header : Envelope.Header
  wrappedKey : Option Bytes
  initialValue : Option Bytes
  cipherText : Bytes
  tag : Option Bytes
  deriving DecidableEq

namespace Envelope

/-- The bytes of a segment. -/
def segment (t : Text) : Except Fault Bytes :=
  match Base64.decodeUrl? t with
  | .ok bs => .ok bs
  | .error f => .error (.malformed (.ofBase64 f))

/-- The bytes of a segment that may be empty. -/
def optionalSegment (t : Text) : Except Fault (Option Bytes) :=
  if t.isEmpty then .ok none else (segment t).map some

/-- The members of the header in a segment. -/
def headerMembers (t : Text) : Except Fault (List (Text × Json)) := do
  let bs ← segment t
  match Utf8.decode? bs with
  | none => .error (.malformed .notText)
  | some text => match Json.read? text with
    | none => .error (.malformed .notJson)
    | some (.obj members) => .ok members
    | some _ => .error (.malformed .notObject)

/-- Takes the compact form apart. -/
def parse (serialized : Text) : Except Fault Envelope :=
  match Text.pieces (· = '.') serialized.trim with
  | [header, wrappedKey, initialValue, cipherText, tag] => do
    let members ← headerMembers header
    let wrappedKey ← optionalSegment wrappedKey
    let initialValue ← optionalSegment initialValue
    let cipherText ← segment cipherText
    let tag ← optionalSegment tag
    .ok ⟨⟨members, header⟩, wrappedKey, initialValue, cipherText, tag⟩
  | parts => .error (.partCount parts.length)

/-- The compact form of five parts. -/
def compact (header wrappedKey initialValue cipherText tag : Bytes) : Text :=
  Text.joined "." ([header, wrappedKey, initialValue, cipherText, tag].map Base64.encodeUrl)

/-- The compact form of an envelope for a payload: the payload is encrypted under the content
key, with the header's segment as additional data. -/
def encrypt (header wrappedKey contentKey initialValue payload : Bytes) : Text :=
  let (cipherText, tag) := Gcm.encrypt contentKey initialValue
    (Bytes.ofAscii (Base64.encodeUrl header)) payload
  compact header wrappedKey initialValue cipherText tag

end Envelope

end Issuance
