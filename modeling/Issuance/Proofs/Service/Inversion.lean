import Issuance.Service.Http
import Issuance.Proofs.Service.Exchange

/-!
# Issuance.Proofs.Service.Inversion

**The ways out of an operation.** To open a session and to hand out its code are each a chain of
checks, then a record in the trail, and only then an effect. `opening_step` and `authorize_step` go
along these chains once, as `exchange_step` does for an exchange, and say all that the operation
can have done. Whatever is to be shown of every opening, or of every request for a code, is shown
of the three ways out.
-/

namespace Issuance

theorem Counters.count_bumpIf {c d : Counter} (hne : d ≠ c) (condition : Bool) (k : Counters) :
    (k.bumpIf condition c).count d = k.count d := by
  unfold bumpIf
  split
  · rw [count_bump, if_neg hne, Nat.add_zero]
  · rfl

namespace AuthorizationRequest

/-- What is granted to a request: a code of the session, for the client whose session it is, at the
redirect URI that is registered for the client. -/
structure Grants (r : AuthorizationRequest) (requiredScope : Text) (registry : Registry)
    (s : Session) (client : Client) (g : Grant) : Prop where
  responseType : r.responseType = some "code"
  scope : scopeContains r.scope requiredScope = true
  clientId : r.clientId = some s.clientId
  redirectUri : r.redirectUri = some g.redirectUri
  redirectFilled : g.redirectUri ≠ []
  registered : registry.client s.clientId = .ok client
  sameRedirect : client.redirectUri = some g.redirectUri
  code : g.code = (s.authorizationCode.getD []).trim
  codeFilled : g.code ≠ []
  state : g.state = r.state

theorem decide_eq_ok {r : AuthorizationRequest} {requiredScope : Text} {registry : Registry}
    {s : Session} {g : Grant} :
    r.decide requiredScope registry s = .ok g ↔
      ∃ client, r.Grants requiredScope registry s client g := by
  unfold decide
  constructor
  · intro h
    split at h
    · cases h
    rename_i htype
    split at h
    · cases h
    rename_i hscope
    split at h
    · cases h
    rename_i hclient
    split at h
    · cases h
    rename_i redirectUri hredirect
    split at h
    · cases h
    rename_i client hregistered
    split at h
    · cases h
    rename_i hmatch
    dsimp only at h
    split at h
    · cases h
    rename_i hcode
    cases h
    obtain ⟨hredirect, hfilled⟩ := Session.filled?_eq_some.1 hredirect
    refine ⟨client, Decidable.not_not.1 htype, by simpa using hscope, Decidable.not_not.1 hclient,
      hredirect, hfilled, hregistered, ?_, rfl, ?_, rfl⟩
    · simpa [Client.redirectUrisMatch] using hmatch
    · simpa using hcode
  · rintro ⟨client, h⟩
    have hmatch : Client.redirectUrisMatch client.redirectUri (some g.redirectUri) = true := by
      rw [h.sameRedirect]
      exact beq_self_eq_true _
    have hcode : (s.authorizationCode.getD []).trim.isEmpty = false := by
      rw [← h.code]
      simpa using h.codeFilled
    rw [if_neg (Decidable.not_not.2 h.responseType), h.scope, if_neg (by decide),
      if_neg (Decidable.not_not.2 h.clientId), h.redirectUri,
      Session.filled?_eq_some.2 ⟨rfl, h.redirectFilled⟩]
    dsimp only
    rw [h.registered]
    dsimp only
    rw [hmatch, if_neg (by decide), hcode, if_neg (by decide), ← h.code, ← h.state]

/-- What is granted is the code of the session, without the blanks at its ends. -/
theorem Grants.exists_code {r : AuthorizationRequest} {requiredScope : Text} {registry : Registry}
    {s : Session} {client : Client} {g : Grant}
    (h : r.Grants requiredScope registry s client g) :
    ∃ code, s.code? = some code ∧ g.code = code.trim := by
  have hcode := h.code
  cases ht : s.authorizationCode with
  | none =>
    rw [ht] at hcode
    exact absurd hcode h.codeFilled
  | some code =>
    rw [ht] at hcode
    have hne : code ≠ [] := by
      rintro rfl
      exact absurd hcode h.codeFilled
    exact ⟨code, Session.code?_eq_some.2 ⟨ht, hne⟩, hcode⟩

end AuthorizationRequest

namespace Issuer

open Http Session

/-! ### Opening a session -/

/-- What is answered when a session is opened for a request. -/
def openingAnswer (q : SessionRequest) (s : Session) : Json :=
  .obj [("session_id", .str s.id), ("state", q.state), ("redirect_uri", .str q.redirectUri)]

/-- The counters of sessions: how many were opened, and how many requests were refused. -/
def sessionCounts (k : Counters) : Nat × Nat := (k.count .sessionCreated, k.count .sessionFailed)

/-- The ways out of an opening. -/
inductive OpeningStep (i : Issuer) (body : Payload) (clientAddress : Option Text) (st : State) :
    Except Failure Json × State → Prop
  | refused (f : Failure) (counters : Counters)
      (counted : sessionCounts counters = sessionCounts st.counters)
      (invalid : ∀ q, (i.validator.validate st.registry st.now body clientAddress).result ≠ .ok q) :
      OpeningStep i body clientAddress st (.error f, { st with counters })
  | unrecorded (q : SessionRequest)
      (valid : (i.validator.validate st.registry st.now body clientAddress).result = .ok q)
      (f : Fault) (trail : Audit.Trail)
      (failed : st.trail.publish i.source .start (st.book.newSession i.plan st.now q).1
        clientAddress (openingExtensions q) st.now = (.error f, trail)) (counters : Counters)
      (counted : sessionCounts counters = sessionCounts st.counters) :
      OpeningStep i body clientAddress st
        (.error (.fault f),
          { st with book := (st.book.newSession i.plan st.now q).2, trail, counters })
  | opened (q : SessionRequest)
      (valid : (i.validator.validate st.registry st.now body clientAddress).result = .ok q)
      (trail : Audit.Trail)
      (recorded : st.trail.publish i.source .start (st.book.newSession i.plan st.now q).1
        clientAddress (openingExtensions q) st.now = (.ok (), trail)) (counters : Counters)
      (counted : sessionCounts counters =
        (st.counters.count .sessionCreated + 1, st.counters.count .sessionFailed)) :
      OpeningStep i body clientAddress st
        (.ok (openingAnswer q (st.book.newSession i.plan st.now q).1),
          { st with
            book := (st.book.newSession i.plan st.now q).2.save
              (st.book.newSession i.plan st.now q).1 q
            trail
            counters })

/-- Invert an opening. -/
theorem opening_step (i : Issuer) (body : Payload) (clientAddress : Option Text) (st : State) :
    OpeningStep i body clientAddress st (i.openSession body clientAddress st) := by
  -- validating may count that the keys are exhausted, which is no count of sessions
  have hcounts : ∀ exhausted, sessionCounts (st.counters.bumpIf exhausted .keysUnavailable) =
      sessionCounts st.counters := by
    intro exhausted
    simp only [sessionCounts, Counters.count_bumpIf (c := .keysUnavailable)
      (d := .sessionCreated) (by decide), Counters.count_bumpIf (c := .keysUnavailable)
      (d := .sessionFailed) (by decide)]
  unfold openSession validate
  dsimp only
  cases hvalid : (i.validator.validate st.registry st.now body clientAddress).result with
  | error f =>
    refine .refused f.failure _ (hcounts _) fun q hq => ?_
    rw [hvalid] at hq
    cases hq
  | ok q =>
    dsimp only
    unfold openFor publish
    dsimp only
    rcases hp : st.trail.publish i.source .start (st.book.newSession i.plan st.now q).1
      clientAddress (openingExtensions q) st.now with ⟨f | _, trail⟩
    · exact .unrecorded q hvalid f trail hp _ (hcounts _)
    · refine .opened q hvalid trail hp _ ?_
      have hsame := hcounts
        (i.validator.validate st.registry st.now body clientAddress).keysExhausted
      simp only [sessionCounts, Prod.mk.injEq] at hsame
      simp only [sessionCounts, Counters.count_bump, hsame]
      rfl

/-! ### Handing out a code -/

/-- The ways out of a request for the code. -/
inductive AuthorizeStep (i : Issuer) (sessionId : Option Text) (r : AuthorizationRequest)
    (clientAddress : Option Text) (st : State) : Except Failure Json × State → Prop
  | refused (f : Failure) (counters : Counters) :
      AuthorizeStep i sessionId r clientAddress st (.error f, { st with counters })
  | unrecorded (s : Session) (found : st.book.session st.now sessionId = .ok s) (f : Fault)
      (trail : Audit.Trail)
      (failed : st.trail.publish i.source .authorizationSent s clientAddress [] st.now =
        (.error f, trail)) :
      AuthorizeStep i sessionId r clientAddress st (.error (.fault f), { st with trail })
  | sent (s : Session) (client : Client) (g : AuthorizationRequest.Grant)
      (found : st.book.session st.now sessionId = .ok s)
      (grants : r.Grants i.settings.requiredScope st.registry s client g) (trail : Audit.Trail)
      (recorded : st.trail.publish i.source .authorizationSent s clientAddress [] st.now =
        (.ok (), trail)) (counters : Counters) :
      AuthorizeStep i sessionId r clientAddress st (.ok g.response, { st with trail, counters })

/-- Invert a request for the code. -/
theorem authorize_step (i : Issuer) (sessionId : Option Text) (r : AuthorizationRequest)
    (clientAddress : Option Text) (st : State) :
    AuthorizeStep i sessionId r clientAddress st (i.authorize sessionId r clientAddress st) := by
  unfold authorize
  cases hs : st.book.session st.now sessionId with
  | error f => exact .refused _ st.counters
  | ok s =>
    dsimp only
    split
    · exact .refused _ _
    · exact .refused _ st.counters
    · rename_i g hg
      obtain ⟨client, grants⟩ := AuthorizationRequest.decide_eq_ok.1 hg
      unfold publish
      rcases hp : st.trail.publish i.source .authorizationSent s clientAddress [] st.now with
        ⟨f | _, trail⟩
      · exact .unrecorded s hs f trail hp
      · exact .sent s client g hs grants trail hp _

end Issuer

end Issuance
