import Issuance.Fault
import Issuance.Session.Store

/-!
# Issuance.Session.Lifecycle

**The lifecycle of sessions**: opened, given an authorization code, exchanged for a token. The
`Book` is all that it changes: the store, the identity records kept beside it, and how many ids
and secrets have been drawn. Time is always given.

An operation gives its result together with the book it leaves, also where it fails: a secret
that was drawn is drawn, and a token that was revoked is revoked.
-/

namespace Issuance

namespace Session

/-- How long things last, in seconds. -/
structure Lifetimes where
  session : Int
  code : Int
  token : Int
  deriving DecidableEq

/-- Where fresh ids and secrets come from: the first, the second and so on. -/
structure Generators where
  sessionId : Nat → Text
  secret : Nat → Text

/-- What the lifecycle is set up with. -/
structure Plan where
  lifetimes : Lifetimes
  generators : Generators

/-- What the lifecycle changes. -/
structure Book where
  store : Store
  identities : Entries Text IdentityRecord
  idsDrawn : Nat
  secretsDrawn : Nat
  deriving DecidableEq

/-- Why an operation on sessions fails. -/
inductive Fault
  | notFound
  | expired (id : Text) (time : Int)
  | codeExpired (id : Text)
  | replayed (id : Text)
  deriving DecidableEq

namespace Fault

/-- The description that answers a code presented again. -/
def replayDescription : Text := "Authorization code used too many times"

/-- The fault as it is reported. -/
def report : Fault → Issuance.Fault
  | notFound => .plain .sessionNotFound "Session not found"
  | expired id time => .detailed .sessionExpired "Session expired"
      ("session " ++ id ++ " expired at " ++ Text.ofInt time)
  | codeExpired id => .detailed .authorizationCodeExpired "Authorization code expired"
      ("session " ++ id)
  | replayed id => ⟨.replayDetected, "Authorization code replayed", some ("session " ++ id),
      some replayDescription⟩

end Fault

namespace Book

/-- A book in which nothing is written. -/
def empty : Book := ⟨.empty, [], 0, 0⟩

/-- A fresh session for a request, which is not yet stored. -/
def newSession (plan : Plan) (now : Int) (r : SessionRequest) (b : Book) : Session × Book :=
  let s : Session := {
    id := plan.generators.sessionId (b.idsDrawn + 1)
    clientId := r.clientId
    subject := r.subject
    redirectUri := r.redirectUri
    state := r.state
    createdAt := now
    expiresAt := now + plan.lifetimes.session
    authorizationCode := none
    codeExpiresAt := none
    accessToken := none
    tokenExpiresAt := none
    tokenIssuedAt := none
    tokenRevoked := false
    clientSessionId := r.clientSessionId
    persistentSessionId := r.persistentSessionId
    context := r.context
    clientAddress := r.clientAddress
    evidence := r.evidence }
  (s, { b with idsDrawn := b.idsDrawn + 1 })

/-- Stores a session, and the shared claims of its request if there are any. -/
def save (s : Session) (r : SessionRequest) (b : Book) : Book :=
  let stored := { b with store := b.store.put s }
  match r.sharedClaims with
  | none => stored
  | some claims =>
    { stored with identities := Entries.set s.id ⟨claims.wire, s.expiresAt⟩ stored.identities }

/-- Opens and stores a session; its id. -/
def create (plan : Plan) (now : Int) (r : SessionRequest) (b : Book) : Text × Book :=
  let (s, drawn) := b.newSession plan now r
  (s.id, drawn.save s r)

/-- The live session with an id. -/
def session (now : Int) (id : Option Text) (b : Book) : Except Fault Session :=
  match (filled? id).bind b.store.get? with
  | none => .error .notFound
  | some s =>
    if s.isExpiredAt now then .error (.expired (id.getD []) s.expiresAt) else .ok s

/-- Gives a session a fresh code, on the copy that is held and in the store. -/
def issueCode (plan : Plan) (now : Int) (s : Session) (b : Book) : (Text × Session) × Book :=
  let code := plan.generators.secret (b.secretsDrawn + 1)
  let given := { s with
    authorizationCode := some code
    codeExpiresAt := some (now + plan.lifetimes.code) }
  ((code, given), { b with store := b.store.put given, secretsDrawn := b.secretsDrawn + 1 })

/-- The session of a code. One whose code is already redeemed is found whatever its expiry, so
that the second redemption is seen for what it is. -/
def sessionOfCode (now : Int) (code : Option Text) (b : Book) : Except Fault Session :=
  match (filled? code).bind b.store.getByCode? with
  | none => .error .notFound
  | some s =>
    if s.accessToken.isSome then .ok s
    else if s.isExpiredAt now then .error (.expired s.id s.expiresAt)
    else match s.codeExpiresAt with
      | none => .error (.codeExpired s.id)
      | some expiry => if expiry < now then .error (.codeExpired s.id) else .ok s

/-- Marks the token of a session revoked. It stays bound, so the code stays spent. -/
def revokeToken (s : Session) (b : Book) : Except Failure Unit × Book :=
  match b.store.revokeToken? s.id with
  | none => (.error .internal, b)
  | some store => (.ok (), { b with store })

/-- Answers a second redemption: the token is revoked, if there is one, and the redemption
refused. -/
def rejectReplay {α : Type} (s : Session) (b : Book) : Except Failure α × Book :=
  (.error (.fault (Fault.replayed s.id).report), (b.revokeToken s).2)

/-- Draws a token and binds it to a session, if none is bound to the copy that is held, nor to
the stored session. -/
def issueToken (plan : Plan) (now : Int) (s : Session) (b : Book) :
    Except Failure BearerToken × Book :=
  if s.accessToken.isSome then b.rejectReplay s
  else
    let token : BearerToken :=
      ⟨plan.generators.secret (b.secretsDrawn + 1), plan.lifetimes.token, "Bearer"⟩
    let drawn := { b with secretsDrawn := b.secretsDrawn + 1 }
    match drawn.store.bindToken? s.id token.authorizationValue now (now + plan.lifetimes.token) with
    | none => (.error .internal, drawn)
    | some (_, false) => drawn.rejectReplay s
    | some (store, true) => (.ok token, { drawn with store })

end Book

end Session

end Issuance
