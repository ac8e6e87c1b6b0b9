import Issuance.Session.Basic

/-!
# Issuance.Audit.Event

**Audit events** say what happened to a session and when. An event tells of the session only its
subject, its ids and the address it came from; no claims, codes or tokens are in it. What the
session does not have is left out.
-/

namespace Issuance

namespace Audit

/-- What happened. -/
inductive EventType
  | start
  | authorizationSent
  | accessTokenIssued
  | codeReplayed
  deriving DecidableEq

namespace EventType

/-- The name of a type. -/
def name : EventType → Text
  | start => "START"
  | authorizationSent => "AUTHORIZATION_SENT"
  | accessTokenIssued => "ACCESS_TOKEN_ISSUED"
  | codeReplayed => "AUTHORIZATION_CODE_REPLAYED"

/-- The type of a name. -/
def ofName? (t : Text) : Option EventType :=
  [start, authorizationSent, accessTokenIssued, codeReplayed].find? fun e => e.name = t

end EventType

/-- Who writes events: the component, and what the names of its events begin with. -/
structure Source where
  componentId : Text
  eventPrefix : Text
  deriving DecidableEq

namespace Source

/-- The name of an event of a type. -/
def eventName (s : Source) (type : EventType) : Text := s.eventPrefix ++ "_" ++ type.name

end Source

/-- The address of the present request, or else the one that opened the session. -/
def address (s : Session) (clientAddress : Option Text) : Option Text :=
  match Session.filled? clientAddress with
  | some a => some a
  | none => s.clientAddress

/-- What an event tells of its session. -/
def user (s : Session) (clientAddress : Option Text) : Json :=
  let fields : List (Text × Json) :=
    [("user_id", s.subject), ("session_id", .str s.id),
      ("persistent_session_id", s.persistentSessionId),
      ("govuk_signin_journey_id", s.clientSessionId),
      ("ip_address", .ofText? (address s clientAddress))]
  .obj (fields.filter fun f => f.2 ≠ .null)

/-- The members of an event. Extensions without members are left out. -/
def event (source : Source) (type : EventType) (s : Session) (clientAddress : Option Text)
    (extensions : List (Text × Json)) (now : Int) : List (Text × Json) :=
  let extension : List (Text × Json) :=
    if extensions.isEmpty then [] else [("extensions", .obj extensions)]
  let core : List (Text × Json) :=
    [("event_name", .str (source.eventName type)), ("component_id", .str source.componentId),
      ("timestamp", .int now), ("user", user s clientAddress)]
  core ++ extension

end Audit

end Issuance
