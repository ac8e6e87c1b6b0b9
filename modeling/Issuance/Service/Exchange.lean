import Issuance.Form
import Issuance.Service.State

/-!
# Issuance.Service.Exchange

**Exchanging an authorization code for an access token.** The client presents the code in a form,
together with an assertion that it has signed about itself. The token is bound before the
exchange is recorded, so a code is spent even where the record fails, and a second exchange of the
same code is answered as a replay.
-/

namespace Issuance

/-- The form of an exchange. Its grant type and assertion type are always the same. -/
structure TokenRequest where
  code : Text
  redirectUri : Text
  clientAssertion : Text
  deriving DecidableEq

namespace TokenRequest

/-- The only grant type. -/
def grantType : Text := "authorization_code"

/-- The only type of assertion. -/
def assertionType : Text := "urn:ietf:params:oauth:client-assertion-type:jwt-bearer"

/-- Why a form is not one of an exchange. -/
inductive Fault
  | noBody
  | notText
  | noRedirectUri
  | noCode
  | noAssertion
  | grantType
  | assertionType
  deriving DecidableEq

namespace Fault

/-- The fault in words. -/
def message : Fault → Text
  | noBody => "Invalid request: missing body"
  | notText => "Invalid request: body is not UTF-8"
  | noRedirectUri => "Invalid request: Missing redirectUri parameter"
  | noCode => "Invalid request: Missing code parameter"
  | noAssertion => "Invalid client_assertion parameter"
  | grantType => "Invalid grant_type parameter"
  | assertionType => "Invalid client_assertion_type parameter"

/-- The fault as it is reported. -/
def report (f : Fault) : Issuance.Fault := .plain .invalidRequest f.message

end Fault

/-- The text of a body, which must not be empty. -/
def bodyText : Payload → Except Fault Text
  | .absent | .text [] | .bytes [] => .error .noBody
  | .text t => .ok t
  | .bytes bs => match Utf8.decode? bs with
    | some t => .ok t
    | none => .error .notText

/-- A parameter that must be there and not be empty. -/
def parameter (fault : Fault) (form : Entries Text Text) (name : Text) : Except Fault Text :=
  match Session.filled? (Entries.get? name form) with
  | some t => .ok t
  | none => .error fault

/-- The request in a form. -/
def ofForm (form : Entries Text Text) : Except Fault TokenRequest := do
  let redirectUri ← parameter .noRedirectUri form "redirect_uri"
  let code ← parameter .noCode form "code"
  let clientAssertion ← parameter .noAssertion form "client_assertion"
  if Entries.get? ("grant_type" : Text) form ≠ some grantType then .error .grantType
  if Entries.get? ("client_assertion_type" : Text) form ≠ some assertionType then
    .error .assertionType
  .ok ⟨code, redirectUri, clientAssertion⟩

/-- The request in a body. -/
def ofPayload (body : Payload) : Except Fault TokenRequest := do
  let t ← bodyText body
  ofForm (Form.parameters t)

/-- The parameters of a request, in the order in which they are usually written. -/
def parameters (r : TokenRequest) : List (Text × Text) :=
  [("grant_type", grantType), ("code", r.code), ("redirect_uri", r.redirectUri),
    ("client_assertion_type", assertionType), ("client_assertion", r.clientAssertion)]

/-- The claims that an assertion must have. -/
def requiredClaims : List Text := ["exp", "sub", "iss", "aud", "jti"]

/-- What is expected of the assertion of a client: it is issued by the client about itself. -/
def assertionPolicy (c : Client) (clientId : Text) : SignedToken.Policy where
  algorithm := c.signingAlgorithm
  material := c.keyMaterial
  required := requiredClaims
  audience := some c.audience
  issuer := some clientId
  subject := some clientId

/-- Why an exchange is refused for a session whose code is presented. -/
inductive Refusal
  | client (fault : Client.Fault)
  | assertion (report : Issuance.Fault)
  | redirectMismatch (given registered : Text)
  /-- Something that no rule provides for. -/
  | unprovided
  deriving DecidableEq

namespace Refusal

/-- The failure that a refusal is. -/
def failure : Refusal → Failure
  | client f => .fault f.report
  | assertion r =>
    .fault (.detailed .tokenValidation "Client assertion verification failed" r.summary)
  | redirectMismatch given registered =>
    .fault (.detailed .tokenValidation "Redirect URI mismatch"
      ("redirect uri " ++ given ++ " does not match session uri " ++ registered))
  | unprovided => .internal

/-- Whether the client has failed to show that the code is its own. -/
def isClientFailure : Refusal → Bool
  | assertion _ | redirectMismatch _ _ => true
  | client _ | unprovided => false

end Refusal

/-- The failure of a verification as a refusal. -/
def ofTokenFault (f : SignedToken.Fault) : Refusal :=
  match f.failure with
  | .fault r => .assertion r
  | .internal => .unprovided

/-- Checks that the client of a session stands behind a request. -/
def check (r : TokenRequest) (registry : Registry) (now : Int) (s : Session) :
    Except Refusal Unit :=
  match registry.client s.clientId with
  | .error f => .error (.client f)
  | .ok c =>
    match SignedToken.verify now (assertionPolicy c s.clientId) r.clientAssertion with
    | .error f => .error (ofTokenFault f)
    | .ok _ =>
      if r.redirectUri = s.redirectUri then .ok ()
      else .error (.redirectMismatch r.redirectUri s.redirectUri)

end TokenRequest

namespace Issuer

/-- Whether a failure is that of a code presented again. -/
def isReplay : Failure → Bool
  | .fault f => f.kind == .replayDetected
  | .internal => false

/-- Binds a token to a session and records it. A replay is counted, and recorded as far as that
is possible. -/
def issueToken (i : Issuer) (s : Session) (clientAddress : Option Text) (st : State) :
    Except Failure Json × State :=
  match st.book.issueToken i.plan st.now s with
  | (.error f, book) =>
    let st := { st with book }
    if isReplay f then
      (.error f, (i.publish .codeReplayed s clientAddress [] (st.count .codeReplayed)).2)
    else (.error f, st)
  | (.ok token, book) =>
    match i.publish .accessTokenIssued s clientAddress [] { st with book } with
    | (.error f, st) => (.error f, st)
    | (.ok _, st) => (.ok token.response, st.count .accessTokenIssued)

/-- Exchanges the code of a request. -/
def exchangeFor (i : Issuer) (r : TokenRequest) (clientAddress : Option Text) (st : State) :
    Except Failure Json × State :=
  match st.book.sessionOfCode st.now (some r.code) with
  | .error f => (.error (.fault f.report), st)
  | .ok s =>
    match r.check st.registry st.now s with
    | .error refusal =>
      (.error refusal.failure,
        if refusal.isClientFailure then st.count .tokenVerificationFailed else st)
    | .ok _ => i.issueToken s clientAddress st

/-- Exchanges the code in a body. -/
def exchange (i : Issuer) (body : Payload) (clientAddress : Option Text) (st : State) :
    Except Failure Json × State :=
  match TokenRequest.ofPayload body with
  | .error f => (.error (.fault f.report), st)
  | .ok r => i.exchangeFor r clientAddress st

end Issuer

end Issuance
