import Issuance.Json.Value

/-!
# Issuance.Fault

**Faults** are the failures that the issuer knows about. Each has a **kind**, which alone decides
the status and body of the answer, and a message. Details are for the server's own log and are
never part of an answer; a description takes the place of the body's own where the body has one.

A **failure** is a fault or `internal`: something that no rule of the issuer provides for.
-/

namespace Issuance

namespace Fault

/-- What went wrong, as far as an answer may tell. -/
inductive Kind
  | sessionValidation
  | clientConfiguration
  | unsupportedAlgorithm
  | decryptionFailed
  | tokenVerification
  | sharedClaims
  | sessionNotFound
  | sessionExpired
  | authorizationCodeExpired
  | accessDenied
  | invalidRequest
  | tokenValidation
  | replayDetected
  | auditFailure
  deriving DecidableEq

namespace Kind

/-- All kinds. -/
def all : List Kind :=
  [.sessionValidation, .clientConfiguration, .unsupportedAlgorithm, .decryptionFailed,
    .tokenVerification, .sharedClaims, .sessionNotFound, .sessionExpired,
    .authorizationCodeExpired, .accessDenied, .invalidRequest, .tokenValidation,
    .replayDetected, .auditFailure]

/-- The name of a kind in logs. -/
def name : Kind → Text
  | sessionValidation => "session_validation"
  | clientConfiguration => "client_configuration"
  | unsupportedAlgorithm => "unsupported_algorithm"
  | decryptionFailed => "decryption_failed"
  | tokenVerification => "jwt_verification"
  | sharedClaims => "shared_claims_parse"
  | sessionNotFound => "session_not_found"
  | sessionExpired => "session_expired"
  | authorizationCodeExpired => "authorization_code_expired"
  | accessDenied => "access_denied"
  | invalidRequest => "invalid_request"
  | tokenValidation => "token_validation"
  | replayDetected => "replay_detected"
  | auditFailure => "audit_failure"

/-- The kind with a given name. -/
def ofName? (t : Text) : Option Kind := all.find? fun k => k.name = t

end Kind

/-- The bodies of answers to a failed request. -/
inductive Body
  | sessionValidation
  | serverError
  | accessDenied
  | invalidGrant
  | invalidRequest
  deriving DecidableEq

/-- The body of a kind's answer. A session that is unknown, expired or without a code is denied
in the same words, so that an answer does not tell which it was. -/
def Kind.body : Kind → Body
  | sessionValidation | unsupportedAlgorithm | decryptionFailed | tokenVerification
  | sharedClaims => .sessionValidation
  | clientConfiguration | auditFailure => .serverError
  | sessionNotFound | sessionExpired | authorizationCodeExpired | accessDenied => .accessDenied
  | invalidRequest => .invalidRequest
  | tokenValidation | replayDetected => .invalidGrant

/-- The status that goes with a body: the caller's fault, a denial, or the server's fault. -/
def Body.status : Body → Nat
  | sessionValidation | invalidGrant | invalidRequest => 400
  | accessDenied => 403
  | serverError => 500

/-- The body as JSON. The bodies of authorization answers have an error name and a description,
which the fault may replace; the others have a fixed number and text. -/
def Body.json (description : Option Text) : Body → Json
  | sessionValidation =>
    .obj [("code", .int 1019), ("message", .str "Session Validation Exception")]
  | serverError =>
    .obj [("code", .int 1025), ("message", .str "Request failed due to a server error")]
  | accessDenied => authorization "access_denied"
      "Access denied by resource owner or authorization server"
  | invalidGrant => authorization "invalid_grant" "Invalid grant"
  | invalidRequest => authorization "invalid_request" "Invalid request"
where
  /-- The body of an authorization answer. -/
  authorization (error standard : Text) : Json :=
    .obj [("error", .str error), ("error_description", .str (description.getD standard))]

end Fault

/-- A failure of a known kind. -/
structure Fault where
  kind : Fault.Kind
  message : Text
  details : Option Text
  description : Option Text
  deriving DecidableEq

namespace Fault

/-- A fault with a message only. -/
def plain (kind : Kind) (message : Text) : Fault := ⟨kind, message, none, none⟩

/-- A fault with details for the log. -/
def detailed (kind : Kind) (message details : Text) : Fault := ⟨kind, message, some details, none⟩

/-- A text that is absent or empty says nothing. -/
def nonempty? : Option Text → Option Text
  | some [] => none
  | t => t

/-- The line that a log has for a fault. -/
def summary (f : Fault) : Text :=
  f.kind.name ++ ": " ++ f.message ++ (match nonempty? f.details with
    | some d => " - " ++ d
    | none => [])

/-- The status of the answer. -/
def status (f : Fault) : Nat := f.kind.body.status

/-- The body of the answer. -/
def body (f : Fault) : Json := f.kind.body.json (nonempty? f.description)

end Fault

/-- Why an operation did not succeed. -/
inductive Failure
  /-- A fault that has an answer of its own. -/
  | fault (f : Fault)
  /-- Something that no rule provides for; it is answered as a server error. -/
  | internal
  deriving DecidableEq

namespace Failure

/-- The status of the answer. -/
def status : Failure → Nat
  | fault f => f.status
  | internal => Fault.Body.serverError.status

/-- The body of the answer. -/
def body : Failure → Json
  | fault f => f.body
  | internal => Fault.Body.serverError.json none

end Failure

end Issuance
