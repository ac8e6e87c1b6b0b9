import Issuance.Claims.Evidence
import Issuance.Claims.Shared

/-!
# Issuance.Session.Basic

A **session** is one person's way through the issuer: opened by a client's signed request, given
an authorization code once the evidence is in, and closed by the exchange of the code for an
access token. What a client states about it is kept as it was stated, as JSON, with `null` for
what was not stated.

Nothing is ever stored as expired: `Session.statusAt` tells it from the times.
-/

namespace Issuance

/-- A session. -/
structure Session where
  id : Text
  clientId : Text
  subject : Json
  redirectUri : Text
  state : Json
  createdAt : Int
  expiresAt : Int
  authorizationCode : Option Text
  codeExpiresAt : Option Int
  /-- The value of the authorization header that the bound token has: its type and itself. -/
  accessToken : Option Text
  tokenExpiresAt : Option Int
  tokenIssuedAt : Option Int
  tokenRevoked : Bool
  clientSessionId : Json
  persistentSessionId : Json
  context : Json
  clientAddress : Option Text
  evidence : Option EvidenceRequest
  deriving DecidableEq

namespace Session

/-- Where a session stands. -/
inductive Status
  | created
  | codeIssued
  | tokenExchanged
  | expired
  deriving DecidableEq

namespace Status

/-- The name of a status. -/
def name : Status → Text
  | created => "created"
  | codeIssued => "auth_code_issued"
  | tokenExchanged => "token_exchanged"
  | expired => "expired"

end Status

/-- Whether a session is past its expiry. -/
def isExpiredAt (s : Session) (now : Int) : Bool := s.expiresAt < now

/-- A text that is there and not empty. -/
def filled? : Option Text → Option Text
  | some [] => none
  | t => t

/-- The code of a session, if it has one. -/
def code? (s : Session) : Option Text := filled? s.authorizationCode

/-- Where a session stands at a time. -/
def statusAt (s : Session) (now : Int) : Status :=
  if s.isExpiredAt now then .expired
  else if (filled? s.accessToken).isSome then .tokenExchanged
  else if s.code?.isSome then
    match s.codeExpiresAt with
    | some expiry => if expiry < now then .expired else .codeIssued
    | none => .codeIssued
  else .created

end Session

/-- A bearer token as it is handed out. -/
structure BearerToken where
  token : Text
  expiresIn : Int
  type : Text
  deriving DecidableEq

namespace BearerToken

/-- The stored form: the type and the token. -/
def authorizationValue (t : BearerToken) : Text := t.type ++ " " ++ t.token

/-- The answer that hands out the token. -/
def response (t : BearerToken) : Json :=
  .obj [("access_token", .str t.token), ("token_type", .str t.type),
    ("expires_in", .int t.expiresIn)]

end BearerToken

/-- A session request whose envelope, token and claims have passed. -/
structure SessionRequest where
  audience : Json
  issuer : Json
  subject : Json
  clientId : Text
  tokenClientId : Text
  notBefore : Json
  expiration : Json
  redirectUri : Text
  responseType : Json
  state : Json
  persistentSessionId : Json
  clientSessionId : Json
  context : Json
  sharedClaims : Option SharedClaims
  evidence : Option EvidenceRequest
  clientAddress : Option Text
  deriving DecidableEq

/-- What is kept of the shared claims of a session: their wire form, up to the session's
expiry. -/
structure IdentityRecord where
  sharedClaims : Json
  expiresAt : Int
  deriving DecidableEq

end Issuance
