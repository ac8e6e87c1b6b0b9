import Issuance.Service.Exchange
import Issuance.Proofs.Session.Lifecycle
import Issuance.Proofs.Signed.Verifier

/-!
# Issuance.Proofs.Service.Exchange

What an exchange does. `Issuer.ExchangeStep` lists its ways out, with the answer and the state that
each leaves: refused before anything is done, refused as a replay, and the two in which a token is
bound, which differ in whether the trail took the record. `exchange_step` inverts the operation
once; every later argument about `/token` splits along it.
-/

namespace Issuance

namespace TokenRequest

theorem parameter_eq_ok {fault : Fault} {form : Entries Text Text} {name t : Text} :
    parameter fault form name = .ok t ↔ Entries.get? name form = some t ∧ t ≠ [] := by
  unfold parameter
  rw [← Session.filled?_eq_some]
  cases Session.filled? (Entries.get? name form) <;> simp

/-- A form is one of an exchange where its three parameters are filled and its two types are the
fixed ones. -/
theorem ofForm_eq_ok {form : Entries Text Text} {r : TokenRequest} :
    ofForm form = .ok r ↔
      (Entries.get? ("redirect_uri" : Text) form = some r.redirectUri ∧ r.redirectUri ≠ []) ∧
      (Entries.get? ("code" : Text) form = some r.code ∧ r.code ≠ []) ∧
      (Entries.get? ("client_assertion" : Text) form = some r.clientAssertion ∧
        r.clientAssertion ≠ []) ∧
      Entries.get? ("grant_type" : Text) form = some grantType ∧
      Entries.get? ("client_assertion_type" : Text) form = some assertionType := by
  unfold ofForm
  simp only [bind_eq_ok, parameter_eq_ok]
  constructor
  · rintro ⟨redirectUri, hredirect, code, hcode, assertion, hassertion, h⟩
    by_cases hg : Entries.get? ("grant_type" : Text) form = some grantType
    · by_cases ha : Entries.get? ("client_assertion_type" : Text) form = some assertionType
      · simp only [hg, ha, ne_eq, not_true_eq_false, if_false] at h
        cases h
        exact ⟨hredirect, hcode, hassertion, hg, ha⟩
      · simp only [hg, ha, ne_eq, not_true_eq_false, not_false_eq_true, if_false, if_true] at h
        cases h
    · simp only [hg, ne_eq, not_false_eq_true, if_true] at h
      cases h
  · rintro ⟨hredirect, hcode, hassertion, hg, ha⟩
    refine ⟨r.redirectUri, hredirect, r.code, hcode, r.clientAssertion, hassertion, ?_⟩
    simp only [hg, ha, ne_eq, not_true_eq_false, if_false]

theorem ofPayload_bytes_eq_ok {bs : Bytes} {r : TokenRequest} :
    ofPayload (.bytes bs) = .ok r ↔
      ∃ t, bs ≠ [] ∧ Utf8.decode? bs = some t ∧ ofForm (Form.parameters t) = .ok r := by
  unfold ofPayload
  rw [bind_eq_ok]
  have htext : ∀ t, bodyText (.bytes bs) = .ok t ↔ bs ≠ [] ∧ Utf8.decode? bs = some t := by
    intro t
    cases bs with
    | nil => simp [bodyText]
    | cons b rest =>
      unfold bodyText
      dsimp only
      cases Utf8.decode? (b :: rest) <;> simp
  constructor
  · rintro ⟨t, ht, h⟩
    exact ⟨t, ((htext t).1 ht).1, ((htext t).1 ht).2, h⟩
  · rintro ⟨t, hne, ht, h⟩
    exact ⟨t, (htext t).2 ⟨hne, ht⟩, h⟩

/-- The client that is registered for a session has shown that the code is its own: its assertion
is accepted under the registered key and algorithm, says that the client speaks about itself to
the registered audience, and leaves no required claim vacant; and the redirect URI is the
session's. -/
structure Authenticated (r : TokenRequest) (registry : Registry) (now : Int) (s : Session)
    (client : Client) (claims : SignedToken.ClaimSet) : Prop where
  registered : registry.client s.clientId = .ok client
  verified :
    SignedToken.verify now (assertionPolicy client s.clientId) r.clientAssertion = .ok claims
  issuer : SignedToken.claim claims "iss" = .str s.clientId
  subject : SignedToken.claim claims "sub" = .str s.clientId
  audience : SignedToken.Addresses claims client.audience
  required : ∀ name ∈ (["exp", "sub", "iss", "aud", "jti"] : List Text),
    (SignedToken.claim claims name).isVacant = false
  redirectUri : r.redirectUri = s.redirectUri

theorem authenticated_of_check {r : TokenRequest} {registry : Registry} {now : Int} {s : Session}
    (h : r.check registry now s = .ok ()) :
    ∃ client claims, r.Authenticated registry now s client claims := by
  unfold check at h
  cases hr : registry.client s.clientId with
  | error f => rw [hr] at h; cases h
  | ok client =>
    rw [hr] at h
    dsimp only at h
    cases hv : SignedToken.verify now (assertionPolicy client s.clientId) r.clientAssertion with
    | error f => rw [hv] at h; cases h
    | ok claims =>
      rw [hv] at h
      dsimp only at h
      by_cases hredirect : r.redirectUri = s.redirectUri
      · obtain ⟨-, _, _, -, -, -, -, -, hclaims⟩ := SignedToken.verify_eq_ok.1 hv
        obtain ⟨-, hissuer, haudience, -, -, hfilled, -, hsubject⟩ :=
          SignedToken.checkClaims_eq_ok.1 hclaims
        exact ⟨client, claims, hr, hv, SignedToken.checkIssuer_some.1 hissuer,
          SignedToken.checkSubject_some.1 hsubject,
          SignedToken.addresses_of_checkAudience haudience,
          SignedToken.checkFilled_eq_ok.1 hfilled, hredirect⟩
      · rw [if_neg hredirect] at h
        cases h

/-- The client whose assertion is accepted stands behind a request if it names the redirect URI of
the session. -/
theorem check_of_verified {q : TokenRequest} {registry : Registry} {now : Int} {s : Session}
    {client : Client} {claims : SignedToken.ClaimSet}
    (registered : registry.client s.clientId = .ok client)
    (verified : SignedToken.verify now (assertionPolicy client s.clientId) q.clientAssertion =
      .ok claims) :
    q.check registry now s = if q.redirectUri = s.redirectUri then .ok ()
      else .error (.redirectMismatch q.redirectUri s.redirectUri) := by
  unfold check
  rw [registered]
  dsimp only
  rw [verified]

end TokenRequest

namespace Issuer

open Session (Book)

/-- The session whose code a body presents, where every check of the exchange is passed. -/
structure Accepts (body : Payload) (st : State) (r : TokenRequest) (s : Session) : Prop where
  form : TokenRequest.ofPayload body = .ok r
  code : st.book.sessionOfCode st.now (some r.code) = .ok s
  client : r.check st.registry st.now s = .ok ()

/-- The book in which a token is bound to a stored session. -/
def bound (i : Issuer) (st : State) (s stored : Session) : Book :=
  { st.book with
    store := st.book.store.withSession s.id
      (Book.withToken i.plan st.now (st.book.nextToken i.plan) stored)
    secretsDrawn := st.book.secretsDrawn + 1 }

/-- A session to which the exchange binds a token: no token is bound to the copy that was found,
nor to the stored session. -/
structure Binds (st : State) (s stored : Session) : Prop where
  free : s.accessToken = none
  found : st.book.store.get? s.id = some stored
  storedFree : stored.accessToken = none

/-- The ways out of an exchange. -/
inductive ExchangeStep (i : Issuer) (body : Payload) (clientAddress : Option Text) (st : State) :
    Except Failure Json × State → Prop
  | refused (f : Failure) (counters : Counters) (unaccepted : ∀ r s, ¬ Accepts body st r s) :
      ExchangeStep i body clientAddress st (.error f, { st with counters })
  | replayed (r : TokenRequest) (s : Session) (accepts : Accepts body st r s) (drawn : Nat)
      (counted : st.book.secretsDrawn ≤ drawn)
      (spent : s.accessToken.isSome ∨
        ∃ stored, st.book.store.get? s.id = some stored ∧ stored.accessToken.isSome)
      (trail : Audit.Trail) (counters : Counters) :
      ExchangeStep i body clientAddress st
        (.error (.fault (Session.Fault.replayed s.id).report),
          { st with
            book := (({ st.book with secretsDrawn := drawn } : Book).revokeToken s).2
            trail
            counters })
  | missing (r : TokenRequest) (s : Session) (accepts : Accepts body st r s)
      (unknown : st.book.store.get? s.id = none) :
      ExchangeStep i body clientAddress st
        (.error .internal,
          { st with book := { st.book with secretsDrawn := st.book.secretsDrawn + 1 } })
  | unrecorded (r : TokenRequest) (s stored : Session) (accepts : Accepts body st r s)
      (binds : Binds st s stored) (f : Fault) (trail : Audit.Trail)
      (failed : st.trail.publish i.source .accessTokenIssued s clientAddress [] st.now =
        (.error f, trail)) :
      ExchangeStep i body clientAddress st
        (.error (.fault f), { st with book := i.bound st s stored, trail })
  | issued (r : TokenRequest) (s stored : Session) (accepts : Accepts body st r s)
      (binds : Binds st s stored) (trail : Audit.Trail)
      (recorded : st.trail.publish i.source .accessTokenIssued s clientAddress [] st.now =
        (.ok (), trail)) (counters : Counters) :
      ExchangeStep i body clientAddress st
        (.ok (st.book.nextToken i.plan).response,
          { st with book := i.bound st s stored, trail, counters })

/-- Publishing changes the trail and nothing else. -/
theorem publish_eq (i : Issuer) (type : Audit.EventType) (s : Session)
    (clientAddress : Option Text) (extensions : List (Text × Json)) (st : State) :
    ∃ trail, (i.publish type s clientAddress extensions st).2 = { st with trail } := by
  unfold publish
  rcases st.trail.publish i.source type s clientAddress extensions st.now with ⟨_ | _, trail⟩
  · exact ⟨trail, rfl⟩
  · exact ⟨trail, rfl⟩

theorem issueToken_step {i : Issuer} {body : Payload} {clientAddress : Option Text} {st : State}
    {r : TokenRequest} {s : Session} (accepts : Accepts body st r s) :
    ExchangeStep i body clientAddress st (i.issueToken s clientAddress st) := by
  have h := Book.issueToken_step i.plan st.now s st.book
  unfold issueToken
  generalize st.book.issueToken i.plan st.now s = result at h
  cases h with
  | replayed drawn counted spent =>
    show ExchangeStep i body clientAddress st (_, (i.publish _ s clientAddress [] _).2)
    obtain ⟨trail, htrail⟩ := publish_eq i .codeReplayed s clientAddress []
      (State.count .codeReplayed { st with
        book := (({ st.book with secretsDrawn := drawn } : Book).revokeToken s).2 })
    rw [htrail]
    exact .replayed r s accepts drawn counted spent trail _
  | missing free unknown => exact .missing r s accepts unknown
  | bound stored free found storedFree =>
    dsimp only
    -- the token is bound by now; what is left to go wrong is the record of it
    unfold publish
    dsimp only
    rcases hp : st.trail.publish i.source .accessTokenIssued s clientAddress [] st.now with
      ⟨f | _, trail⟩
    · exact .unrecorded r s stored accepts ⟨free, found, storedFree⟩ f trail hp
    · exact .issued r s stored accepts ⟨free, found, storedFree⟩ trail hp _

/-- Invert an exchange. -/
theorem exchange_step (i : Issuer) (body : Payload) (clientAddress : Option Text) (st : State) :
    ExchangeStep i body clientAddress st (i.exchange body clientAddress st) := by
  unfold exchange
  cases hr : TokenRequest.ofPayload body with
  | error f =>
    refine .refused _ st.counters fun r s accepts => ?_
    rw [accepts.form] at hr
    cases hr
  | ok r =>
    have hsame : ∀ {r' s}, Accepts body st r' s → r' = r := fun accepts =>
      Except.ok.inj (accepts.form.symm.trans hr)
    dsimp only
    unfold exchangeFor
    cases hs : st.book.sessionOfCode st.now (some r.code) with
    | error f =>
      refine .refused _ st.counters fun r' s accepts => ?_
      have hcode := accepts.code
      rw [hsame accepts, hs] at hcode
      cases hcode
    | ok s =>
      dsimp only
      cases hc : r.check st.registry st.now s with
      | ok u => exact issueToken_step ⟨hr, hs, hc⟩
      | error refusal =>
        -- the same form finds the same session, and its client does not stand behind it
        have hunaccepted : ∀ r' s', ¬ Accepts body st r' s' := by
          intro r' s' accepts
          have hcode := accepts.code
          have hclient := accepts.client
          rw [hsame accepts] at hcode hclient
          rw [← Except.ok.inj (hs.symm.trans hcode), hc] at hclient
          cases hclient
        dsimp only
        cases refusal.isClientFailure with
        | true => exact .refused _ _ hunaccepted
        | false => exact .refused _ st.counters hunaccepted

end Issuer

end Issuance
