import Issuance.Service.Authorization
import Issuance.Service.Exchange
import Issuance.Service.Opening

/-!
# Issuance.Service.Http

**The issuer over HTTP.** `Issuer.handle` takes a request to an answer and the state after it:
the path and method pick an operation, a failure becomes the answer of its kind, and a failure is
counted by the path of the request's URL. An answer that cannot be written as JSON text in UTF-8
is a server error, whatever has been done by then.

The framework routes a request by its path, but the URL it makes again from the Host header, and
a header that is no host moves the path that failures are counted by: with `localhost/x` a failure
is counted nowhere, with `localhost/token?` for `/token`. Which headers it takes as they stand
differs between its versions, so `Issuer.urlPath` is a parameter. It gives a path for every
request: a header of which no URL can be made, such as `[`, is left out.

Left out, too, is what the framework serves on its own: its pages, the redirects from a path with
a slash at its end, and a path with one line feed at its end, which its routes take as well.
-/

namespace Issuance

namespace Http

/-- A request. The query, the header values and the address of the peer are text; the body is
bytes. -/
structure Request where
  method : Text
  path : Text
  query : Text
  headers : List (Text × Text)
  body : Bytes
  peer : Option Text
  deriving DecidableEq

/-- The body of an answer. -/
inductive Content
  | json (v : Json)
  | text (t : Text)
  deriving DecidableEq

/-- An answer. -/
structure Response where
  status : Nat
  content : Content
  deriving DecidableEq

namespace Request

/-- The value of the first header with a name, given in lower case. -/
def header? (r : Request) (name : Text) : Option Text :=
  (r.headers.find? fun h => h.1.map CodePoint.toLowerAscii = name).map Prod.snd

/-- The value of a parameter of the query; of several the last. -/
def parameter? (r : Request) (name : Text) : Option Text :=
  Entries.get? name (Form.parameters r.query)

/-- The address of the client: the first that a proxy names, or else the peer's. -/
def clientAddress (r : Request) : Option Text :=
  match Session.filled? (r.header? "x-forwarded-for") with
  | some hops => Session.filled? (((Text.pieces (· = ',') hops).headD []).trim)
  | none => r.peer

/-- The id of the session that a request is about. -/
def sessionId (r : Request) : Option Text := r.header? "session-id"

/-- The Host header. -/
def host? (r : Request) : Option Text := r.header? "host"

/-- The request for a code in the query. -/
def authorization (r : Request) : AuthorizationRequest where
  redirectUri := r.parameter? "redirect_uri"
  clientId := r.parameter? "client_id"
  responseType := r.parameter? "response_type"
  scope := r.parameter? "scope"
  state := r.parameter? "state"

end Request

/-- What ends the host in a URL. -/
def endsHost (c : CodePoint) : Bool := c = '/' || c = '?' || c = '#'

/-- The path of the URL that is made of a host, taken as it stands, and a path: from the end of
the host to a query or a fragment. -/
def urlPath (host? : Option Text) (path : Text) : Text :=
  ((host?.getD [] ++ path).dropWhile fun c => !endsHost c).takeWhile fun c => c = '/' || !endsHost c

mutual

/-- Whether a value can be written as standard JSON text in UTF-8: its numbers have decimals and
its texts no lone surrogates. -/
def isWritable : Json → Bool
  | .null | .bool _ | .int _ => true
  | .float x => match x with
    | .finite _ => true
    | .nan | .infinity _ => false
  | .str t => !t.any CodePoint.isSurrogate
  | .arr items => areWritable items
  | .obj members => haveWritable members

/-- Whether the items of a list can be written. -/
def areWritable : List Json → Bool
  | [] => true
  | v :: vs => isWritable v && areWritable vs

/-- Whether the members of an object can be written. -/
def haveWritable : List (Text × Json) → Bool
  | [] => true
  | (k, v) :: ms => !k.any CodePoint.isSurrogate && isWritable v && haveWritable ms

end

/-- Whether a member is for internal use: no answer shows it. -/
def isInternal (name : Text) : Bool := name.startsWith "_sa"

mutual

/-- A value as an answer shows it, without members for internal use at any depth. -/
def shown : Json → Json
  | .arr items => .arr (shownItems items)
  | .obj members => .obj (shownMembers members)
  | v => v

/-- The items of a list as an answer shows them. -/
def shownItems : List Json → List Json
  | [] => []
  | v :: vs => shown v :: shownItems vs

/-- The members of an object as an answer shows them. -/
def shownMembers : List (Text × Json) → List (Text × Json)
  | [] => []
  | (k, v) :: ms => if isInternal k then shownMembers ms else (k, shown v) :: shownMembers ms

end

/-- The places that are served. -/
inductive Endpoint
  | session
  | authorization
  | authorizationCode
  | token
  | metrics
  deriving DecidableEq

namespace Endpoint

/-- The path of an endpoint. -/
def path : Endpoint → Text
  | session => "/session"
  | authorization => "/authorization"
  | authorizationCode => "/authorization-code"
  | token => "/token"
  | metrics => "/metrics"

/-- The method of an endpoint. -/
def method : Endpoint → Text
  | session | authorizationCode | token => "POST"
  | authorization | metrics => "GET"

/-- All endpoints. -/
def all : List Endpoint := [session, authorization, authorizationCode, token, metrics]

/-- The endpoint at a path. -/
def ofPath? (path : Text) : Option Endpoint := all.find? fun e => e.path = path

/-- What counts the failures of an endpoint. -/
def failureCounter? : Endpoint → Option Counter
  | session => some .sessionFailed
  | authorization => some .authorizationFailed
  | token => some .accessTokenFailed
  | authorizationCode | metrics => none

end Endpoint

/-- What counts a failure, by the path of the URL. -/
def failureCounter? (path : Text) : Option Counter :=
  (Endpoint.ofPath? path).bind Endpoint.failureCounter?

/-- The answer of a path or method that is not served. -/
def notServed (status : Nat) (words : Text) : Response :=
  ⟨status, .json (.obj [("detail", .str words)])⟩

end Http

namespace Issuer

open Http

/-- The path of the URL that the framework makes for a request. -/
def pathInUrl (i : Issuer) (r : Request) : Text := i.urlPath r.host? r.path

/-- The state after a failure is counted by the path of its URL. -/
def countFailure (path : Text) (st : State) : State :=
  match failureCounter? path with
  | some c => st.count c
  | none => st

/-- The answer of an operation, which has the given status if all goes well; if not, the failure
is counted by the path of the URL. -/
def respond (path : Text) (status : Nat) : Except Failure Json × State → Response × State
  | (.ok v, st) =>
    if isWritable (shown v) then (⟨status, .json (shown v)⟩, st)
    else (⟨Failure.internal.status, .json Failure.internal.body⟩, countFailure path st)
  | (.error f, st) => (⟨f.status, .json f.body⟩, countFailure path st)

/-- Serves a request at an endpoint. -/
def serve (i : Issuer) (e : Endpoint) (r : Request) (st : State) : Response × State :=
  let path := i.pathInUrl r
  match e with
  | .session => respond path 201 (i.openSession (.bytes r.body) r.clientAddress st)
  | .authorization =>
    respond path 200 (i.authorize r.sessionId r.authorization r.clientAddress st)
  | .token => respond path 200 (i.exchange (.bytes r.body) r.clientAddress st)
  | .authorizationCode =>
    match i.issueCode r.sessionId st with
    | (.ok _, st) => (⟨200, .text []⟩, st)
    | (.error f, st) => (⟨f.status, .json f.body⟩, countFailure path st)
  | .metrics => (⟨200, .text st.counters.page⟩, st)

/-- Handles a request. -/
def handle (i : Issuer) (r : Request) (st : State) : Response × State :=
  match Endpoint.ofPath? r.path with
  | none => (notServed 404 "Not Found", st)
  | some e =>
    if r.method = e.method then i.serve e r st
    else (notServed 405 "Method Not Allowed", st)

end Issuer

end Issuance
