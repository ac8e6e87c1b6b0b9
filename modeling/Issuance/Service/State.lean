import Issuance.Audit.Trail
import Issuance.Client
import Issuance.Service.Counters
import Issuance.Session.Lifecycle
import Issuance.Session.Validation
import Issuance.Settings

/-!
# Issuance.Service.State

**The issuer**: what it is set up with, and everything that it changes. Each of its operations is
a function from the state before to an answer and the state after, so that a failure shows
exactly what it left behind.

Requests are served one after the other, and the time does not pass while one is served: all that
a request asks of the clock is answered with one time. Requests that overlap, and a clock that
goes on between two readings, are left out. What becomes of copies of sessions that overlapping
requests hold is the matter of `Session.Book`, whose operations take any copy.
-/

namespace Issuance

/-- What an issuer is set up with. -/
structure Issuer where
  settings : Settings
  keyService : KeyService
  generators : Session.Generators
  /-- The path of the URL that the framework makes for a request again, given its Host header, if
  it has one, and its own path. -/
  urlPath : Option Text → Text → Text

namespace Issuer

/-- Everything that an issuer changes. -/
structure State where
  now : Int
  registry : Registry
  book : Session.Book
  trail : Audit.Trail
  counters : Counters

namespace State

/-- The state at the start: no sessions, no audit trail, all counters zero. -/
def initial (now : Int) (registry : Registry) : State :=
  ⟨now, registry, .empty, .missing, .zero⟩

/-- The state after something has happened once more. -/
def count (c : Counter) (st : State) : State := { st with counters := st.counters.bump c }

/-- The state after time has passed. -/
def advance (seconds : Int) (st : State) : State := { st with now := st.now + seconds }

end State

/-- The source of the audit events. -/
def source (i : Issuer) : Audit.Source := ⟨i.settings.componentId, i.settings.eventPrefix⟩

/-- The plan of the sessions. -/
def plan (i : Issuer) : Session.Plan where
  lifetimes := ⟨i.settings.sessionTtl, i.settings.authorizationCodeTtl, i.settings.accessTokenTtl⟩
  generators := i.generators

/-- How envelopes are opened. -/
def decrypter (i : Issuer) : Envelope.Decrypter where
  keyId := i.settings.decryptionKeyId
  keyRotation := i.settings.keyRotation
  legacyFallback := i.settings.legacyFallback
  candidates := Envelope.Candidate.rotation

/-- What requests for sessions are validated with. -/
def validator (i : Issuer) : SessionRequest.Validator where
  decrypter := i.decrypter
  keyService := i.keyService
  sensitiveFields := i.settings.sensitiveFields

/-- Records what happened to a session. -/
def publish (i : Issuer) (type : Audit.EventType) (s : Session) (clientAddress : Option Text)
    (extensions : List (Text × Json)) (st : State) : Except Failure Unit × State :=
  match st.trail.publish i.source type s clientAddress extensions st.now with
  | (.ok _, trail) => (.ok (), { st with trail })
  | (.error f, trail) => (.error (.fault f), { st with trail })

end Issuer

end Issuance
