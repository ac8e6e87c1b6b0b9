import Issuance.Service.State

/-!
# Issuance.Service.Opening

**Opening a session.** A valid request opens one; that it did is recorded before the session is
stored, so that no session is live without a record.
-/

namespace Issuance

namespace Issuer

/-- Validates a body; a rotation of which every key failed is counted. -/
def validate (i : Issuer) (body : Payload) (clientAddress : Option Text) (st : State) :
    Except Failure SessionRequest × State :=
  let v := i.validator.validate st.registry st.now body clientAddress
  let after := { st with counters := st.counters.bumpIf v.keysExhausted .keysUnavailable }
  match v.result with
  | .ok r => (.ok r, after)
  | .error f => (.error f.failure, after)

/-- What the record of a new session tells beside the session itself: the evidence asked for. -/
def openingExtensions (r : SessionRequest) : List (Text × Json) :=
  match r.evidence with
  | none => []
  | some e => [("evidence_requested", e.json)]

/-- Opens a session for a valid request: records it, stores it, counts it. -/
def openFor (i : Issuer) (r : SessionRequest) (clientAddress : Option Text) (st : State) :
    Except Failure Json × State :=
  let (s, book) := st.book.newSession i.plan st.now r
  match i.publish .start s clientAddress (openingExtensions r) { st with book } with
  | (.error f, st) => (.error f, st)
  | (.ok _, st) =>
    (.ok (.obj [("session_id", .str s.id), ("state", r.state),
        ("redirect_uri", .str r.redirectUri)]),
      { st with book := st.book.save s r }.count .sessionCreated)

/-- Opens a session for a body. -/
def openSession (i : Issuer) (body : Payload) (clientAddress : Option Text) (st : State) :
    Except Failure Json × State :=
  match i.validate body clientAddress st with
  | (.error f, st) => (.error f, st)
  | (.ok r, st) => i.openFor r clientAddress st

end Issuer

end Issuance
