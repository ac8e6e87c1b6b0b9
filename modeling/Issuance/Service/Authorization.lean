import Issuance.Service.State
import Issuance.Text.Blank

/-!
# Issuance.Service.Authorization

**Handing out the authorization code.** The client asks for it with the id of its session. It
gets the code if the session is live and the client's own, if the request names what is
registered, and if the evidence is in, which shows in that there is a code.
-/

namespace Issuance

/-- Whether a scope, a list of words, has a word in it. -/
def scopeContains (scope : Option Text) (required : Text) : Bool :=
  (Text.words (scope.getD [])).contains required

/-- The parameters of a request for the code. -/
structure AuthorizationRequest where
  redirectUri : Option Text
  clientId : Option Text
  responseType : Option Text
  scope : Option Text
  state : Option Text
  deriving DecidableEq

namespace AuthorizationRequest

/-- Why a request for the code is refused. -/
inductive Fault
  | responseType (given : Option Text)
  | scope (required : Text)
  | clientId (given : Option Text) (sessionId : Text)
  | redirectMissing
  | client (fault : Client.Fault)
  | redirectMismatch (given : Text) (registered : Option Text)
  | noCode (sessionId : Text)
  deriving DecidableEq

namespace Fault

/-- The fault as it is reported. -/
def report : Fault → Issuance.Fault
  | responseType given => invalid ("unsupported response_type " ++ (Json.ofText? given).quoted)
  | scope required => invalid ("scope does not include " ++ required)
  | clientId given sessionId =>
    invalid ("client_id " ++ (Json.ofText? given).quoted ++ " does not own session " ++ sessionId)
  | redirectMissing => invalid "missing redirect_uri parameter"
  | client f => f.report
  | redirectMismatch given registered =>
    invalid ("redirect uri " ++ given ++ " does not match configuration uri " ++
      (Json.ofText? registered).shown)
  | noCode sessionId => .detailed .accessDenied "No authorization code for session"
      ("session " ++ sessionId ++ " has no authorization code yet")
where
  /-- A request that does not name what is expected. -/
  invalid (details : Text) : Issuance.Fault :=
    .detailed .sessionValidation "Invalid authorization request" details

end Fault

/-- What a request that is granted is answered with. -/
structure Grant where
  code : Text
  redirectUri : Text
  state : Option Text
  deriving DecidableEq

namespace Grant

/-- The answer. -/
def response (g : Grant) : Json :=
  .obj [("authorizationCode", .obj [("value", .str g.code)]),
    ("redirectionURI", .str g.redirectUri), ("state", .obj [("value", .ofText? g.state)])]

end Grant

/-- Decides on a request, given the live session that it names. -/
def decide (r : AuthorizationRequest) (requiredScope : Text) (registry : Registry) (s : Session) :
    Except Fault Grant :=
  if r.responseType ≠ some "code" then .error (.responseType r.responseType)
  else if !scopeContains r.scope requiredScope then .error (.scope requiredScope)
  else if r.clientId ≠ some s.clientId then .error (.clientId r.clientId s.id)
  else match Session.filled? r.redirectUri with
    | none => .error .redirectMissing
    | some redirectUri =>
      match registry.client s.clientId with
      | .error f => .error (.client f)
      | .ok c =>
        if !Client.redirectUrisMatch c.redirectUri (some redirectUri) then
          .error (.redirectMismatch redirectUri c.redirectUri)
        else
          let code := (s.authorizationCode.getD []).trim
          if code.isEmpty then .error (.noCode s.id) else .ok ⟨code, redirectUri, r.state⟩

end AuthorizationRequest

namespace Issuer

/-- Answers a request for the code: a grant is recorded and counted, a session without a code is
counted. -/
def authorize (i : Issuer) (sessionId : Option Text) (r : AuthorizationRequest)
    (clientAddress : Option Text) (st : State) : Except Failure Json × State :=
  match st.book.session st.now sessionId with
  | .error f => (.error (.fault f.report), st)
  | .ok s =>
    match r.decide i.settings.requiredScope st.registry s with
    | .error (.noCode id) =>
      (.error (.fault (AuthorizationRequest.Fault.noCode id).report),
        st.count .noAuthorizationCode)
    | .error f => (.error (.fault f.report), st)
    | .ok grant =>
      match i.publish .authorizationSent s clientAddress [] st with
      | (.error f, st) => (.error f, st)
      | (.ok _, st) => (.ok grant.response, st.count .authorizationSent)

/-- Gives a live session a fresh code, once the evidence is in. -/
def issueCode (i : Issuer) (sessionId : Option Text) (st : State) : Except Failure Text × State :=
  match st.book.session st.now sessionId with
  | .error f => (.error (.fault f.report), st)
  | .ok s =>
    let ((code, _), book) := st.book.issueCode i.plan st.now s
    (.ok code, { st with book })

end Issuer

end Issuance
