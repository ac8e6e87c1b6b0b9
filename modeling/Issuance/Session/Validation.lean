import Issuance.Claims.Redaction
import Issuance.Client
import Issuance.Envelope.Decrypter
import Issuance.Session.Basic
import Issuance.Signed.Verifier

/-!
# Issuance.Session.Validation

**From the body of a request to a session request.** The body names a client and holds an
envelope; the envelope holds a token signed by that client; the claims of the token, together
with the client's registration, make the session request. The client and the redirect URI that
the token states must be those of the body and of the registration.

`Validator.validate` also tells whether every key of a rotation failed, which is counted.
-/

namespace Issuance

/-- A body as it is received. -/
inductive Payload
  | absent
  | text (t : Text)
  | bytes (bs : Bytes)
  deriving DecidableEq

namespace SessionRequest

/-- Why a body is not a request for a session. -/
inductive BodyFault
  | document (fault : Json.DocumentFault)
  /-- It is JSON, but not an object with the two members that it must have. -/
  | notRequest
  deriving DecidableEq

namespace BodyFault

/-- The name of a fault in details. -/
def label : BodyFault → Text
  | document .notText => "UnicodeDecodeError"
  | document .notJson => "JSONDecodeError"
  | notRequest => "ValidationError"

end BodyFault

/-- Why a request for a session is refused. -/
inductive Fault
  | body (fault : BodyFault)
  | envelope (report : Issuance.Fault)
  | notToken
  | client (fault : Client.Fault)
  | token (report : Issuance.Fault)
  | clientMismatch (inBody : Text) (inToken : Json)
  | redirectMismatch (inToken : Json) (registered : Option Text)
  | redirectMissing (clientId : Text)
  | sharedClaims (message : Text)
  /-- Something that no rule provides for. -/
  | unprovided
  deriving DecidableEq

namespace Fault

/-- A refusal. All but a faulty registration is the caller's fault. -/
def failure : Fault → Failure
  | body f => refusal "could not parse request body" f.label
  | envelope r => refusal "Invalid request: failed to decrypt request" r.summary
  | notToken =>
    .fault (.plain .sessionValidation "Invalid request: decrypted payload is not a JWT")
  | client f => .fault f.report
  | token r => tokenRefusal r.summary
  | clientMismatch inBody inToken =>
    tokenRefusal ("mismatched client_id in request body (" ++ inBody ++ ") & jwt (" ++
      inToken.shown ++ ")")
  | redirectMismatch inToken registered =>
    tokenRefusal ("redirect uri " ++ inToken.shown ++ " does not match configuration uri " ++
      (Json.ofText? registered).shown)
  | redirectMissing clientId =>
    tokenRefusal ("unable to retrieve redirect URI for client_id: " ++ clientId)
  | sharedClaims message => .fault (.plain .sessionValidation message)
  | unprovided => .internal
where
  /-- A refusal of the request. -/
  refusal (message details : Text) : Failure :=
    .fault (.detailed .sessionValidation message details)
  /-- A refusal of the token in the request. -/
  tokenRefusal (details : Text) : Failure :=
    refusal "Invalid request: JWT validation/verification failed" details

end Fault

/-- The two members of a body: the client, and the envelope in compact form. -/
structure Outer where
  clientId : Text
  envelope : Text
  deriving DecidableEq

/-- A member that must be a text that is not blank; it is trimmed. -/
def outerMember (v : Json) (name : Text) : Except BodyFault Text :=
  match v.member name with
  | .str t => if t.trim.isEmpty then .error .notRequest else .ok t.trim
  | _ => .error .notRequest

/-- The value of a body. An absent body is `null`. -/
def document : Payload → Except BodyFault Json
  | .absent => .ok .null
  | .text t => (Json.ofText t).mapError .document
  | .bytes bs => (Json.ofBytes bs).mapError .document

/-- The two members of a body. -/
def outer (v : Json) : Except BodyFault Outer := do
  let clientId ← outerMember v "client_id"
  let envelope ← outerMember v "request"
  .ok ⟨clientId, envelope⟩

/-- The token in a decrypted payload: ASCII text in three segments, with blanks around it. -/
def tokenOf? (payload : Bytes) : Option Text :=
  if payload.all (· < 0x80) then
    let t := (Bytes.toAscii payload).trim
    if (Text.pieces (· = '.') t).length = 3 then some t else none
  else none

/-- The claims that a token must have. -/
def requiredClaims : List Text := ["exp", "nbf", "sub", "state"]

/-- What is expected of the token of a client. -/
def tokenPolicy (c : Client) : SignedToken.Policy where
  algorithm := c.signingAlgorithm
  material := c.keyMaterial
  required := requiredClaims
  audience := some c.audience
  issuer := some c.issuer
  subject := none

/-- The failure of a verification as a fault of the request. -/
def ofTokenFault (f : SignedToken.Fault) : Fault :=
  match f.failure with
  | .fault r => .token r
  | .internal => .unprovided

/-- The failure of a decryption as a fault of the request. -/
def ofEnvelopeFault (f : Envelope.Fault) : Fault :=
  match f.failure with
  | .fault r => .envelope r
  | .internal => .unprovided

/-- The shared claims in a claim, if it is not `null`. -/
def readSharedClaims (sensitive : List Text) (v : Json) : Except Fault (Option SharedClaims) :=
  match v with
  | .null => .ok none
  | v => match SharedClaims.parse sensitive v with
    | .ok c => .ok (some c)
    | .error f => .error (.sharedClaims f.message)

/-- The session request of verified claims. The client and the redirect URI in the token are
pinned to the body and to the registration. -/
def ofClaims (sensitive : List Text) (clientId : Text) (c : Client)
    (claims : SignedToken.ClaimSet) (clientAddress : Option Text) :
    Except Fault SessionRequest := do
  let claim (name : Text) : Json := SignedToken.claim claims name
  if claim "client_id" ≠ .str clientId then
    .error (.clientMismatch clientId (claim "client_id"))
  if claim "redirect_uri" ≠ Json.ofText? c.redirectUri then
    .error (.redirectMismatch (claim "redirect_uri") c.redirectUri)
  match c.redirectUri with
  | none => .error (.redirectMissing clientId)
  | some redirectUri =>
    let sharedClaims ← readSharedClaims sensitive (claim "shared_claims")
    .ok {
      audience := claim "aud"
      issuer := claim "iss"
      subject := claim "sub"
      clientId := clientId
      tokenClientId := clientId
      notBefore := claim "nbf"
      expiration := claim "exp"
      redirectUri := redirectUri
      responseType := claim "response_type"
      state := claim "state"
      persistentSessionId := claim "persistent_session_id"
      clientSessionId := claim "govuk_signin_journey_id"
      context := claim "context"
      sharedClaims := sharedClaims
      evidence := EvidenceRequest.ofClaim? (claim "evidence_requested")
      clientAddress := clientAddress }

/-- What came of a validation. -/
structure Validation where
  result : Except Fault SessionRequest
  /-- Every key of a rotation failed. -/
  keysExhausted : Bool

/-- What requests are validated with. -/
structure Validator where
  decrypter : Envelope.Decrypter
  keyService : KeyService
  sensitiveFields : List Text

namespace Validator

/-- The session request of a decrypted payload. -/
def ofPayload (v : Validator) (registry : Registry) (now : Int) (clientId : Text)
    (payload : Bytes) (clientAddress : Option Text) : Except Fault SessionRequest :=
  match tokenOf? payload with
  | none => .error .notToken
  | some token => match registry.client clientId with
    | .error f => .error (.client f)
    | .ok c => match SignedToken.verify now (tokenPolicy c) token with
      | .error f => .error (ofTokenFault f)
      | .ok claims => ofClaims v.sensitiveFields clientId c claims clientAddress

/-- Validates a body that is already read. -/
def validateDocument (v : Validator) (registry : Registry) (now : Int) (document : Json)
    (clientAddress : Option Text) : Validation :=
  match outer document with
  | .error f => ⟨.error (.body f), false⟩
  | .ok o =>
    let opening := v.decrypter.decryptCompact v.keyService o.envelope
    match opening.result with
    | .error f => ⟨.error (ofEnvelopeFault f), opening.exhausted⟩
    | .ok payload =>
      ⟨v.ofPayload registry now o.clientId payload clientAddress, opening.exhausted⟩

/-- Validates a body. -/
def validate (v : Validator) (registry : Registry) (now : Int) (body : Payload)
    (clientAddress : Option Text) : Validation :=
  match document body with
  | .error f => ⟨.error (.body f), false⟩
  | .ok value => v.validateDocument registry now value clientAddress

end Validator

end SessionRequest

end Issuance
