import Issuance.Proofs.Service.Authorization

/-!
# Issuance.Proofs.Service.LiveCode

**A live code can always be redeemed.** What can stand in the way of a redemption is that the
session is no longer what it was when it was given the code, that the index has lost the code, or
that the code is no longer live. The first is a matter of the requests in between: as long as none
gives the session another code and none exchanges the code that it has, the stored session does
not change at all (`run_untouched`). It takes that exchanges are recorded: one that is not binds a
token although it fails. The second is a matter of codes that do not repeat, and the third is
checked with both bounds included (`live_code_redeemable`).
-/

namespace Issuance

namespace TokenRequest

/-- A body is the well-formed form of a request: its five parameters are there, and none is
empty. -/
structure WrittenIn (q : TokenRequest) (body : Bytes) (text : Text) : Prop where
  decoded : Utf8.decode? body = some text
  grantType : Entries.get? ("grant_type" : Text) (Form.parameters text) =
    some ("authorization_code" : Text)
  code : Entries.get? ("code" : Text) (Form.parameters text) = some q.code
  codeFilled : q.code ≠ []
  redirectUri : Entries.get? ("redirect_uri" : Text) (Form.parameters text) = some q.redirectUri
  redirectFilled : q.redirectUri ≠ []
  assertionType : Entries.get? ("client_assertion_type" : Text) (Form.parameters text) =
    some ("urn:ietf:params:oauth:client-assertion-type:jwt-bearer" : Text)
  assertion : Entries.get? ("client_assertion" : Text) (Form.parameters text) =
    some q.clientAssertion
  assertionFilled : q.clientAssertion ≠ []

/-- A request is read from a body exactly where it is written in it. -/
theorem ofPayload_eq_ok_iff_writtenIn {q : TokenRequest} {body : Bytes} :
    ofPayload (.bytes body) = .ok q ↔ ∃ text, q.WrittenIn body text := by
  constructor
  · intro h
    obtain ⟨text, -, decoded, hform⟩ := ofPayload_bytes_eq_ok.1 h
    obtain ⟨⟨redirectUri, redirectFilled⟩, ⟨code, codeFilled⟩, ⟨assertion, assertionFilled⟩,
      grantType, assertionType⟩ := ofForm_eq_ok.1 hform
    exact ⟨text, decoded, grantType, code, codeFilled, redirectUri, redirectFilled, assertionType,
      assertion, assertionFilled⟩
  · rintro ⟨text, h⟩
    have hform : ofForm (Form.parameters text) = .ok q := ofForm_eq_ok.2
      ⟨⟨h.redirectUri, h.redirectFilled⟩, ⟨h.code, h.codeFilled⟩, ⟨h.assertion, h.assertionFilled⟩,
        h.grantType, h.assertionType⟩
    exact ofPayload_eq_ok_iff.2
      ⟨text, Or.inr ⟨body, rfl, h.decoded⟩, ofForm_eq_ok_iff_isIn.1 hform⟩

end TokenRequest

namespace Issuer

open Http Session

/-! ### Requests in between -/

/-- Something holds of every request among events, in the state in which it comes. -/
def Always (i : Issuer) (P : Request → State → Prop) : State → List Event → Prop
  | _, [] => True
  | st, e :: events => (∀ r, e = .request r → P r st) ∧ Always i P (i.after st e) events

/-- What gives a session no code does not do so in any of its requests. -/
theorem not_reissues_cons {i : Issuer} {id : Text} {st : State} {e : Event} {events : List Event}
    (h : ¬ Reissues i id st (e :: events)) :
    (∀ r, e = .request r → ¬ GivesCode r (i.handle r st).1 id) ∧
      ¬ Reissues i id (i.after st e) events := by
  cases e with
  | request r =>
    obtain ⟨hfirst, hrest⟩ := not_or.1 h
    exact ⟨fun _ heq => Event.request.inj heq ▸ hfirst, hrest⟩
  | advance _ => exact ⟨nofun, h⟩
  | trail _ => exact ⟨nofun, h⟩
  | registry _ => exact ⟨nofun, h⟩

/-- The exchange of a request is recorded, if it comes to bind a token. -/
def Recorded (i : Issuer) (r : Request) (st : State) : Prop :=
  r.IsFor .token → ∀ q s, Accepts (.bytes r.body) st q s → s.accessToken = none →
    (st.trail.publish i.source .accessTokenIssued s r.clientAddress [] st.now).1 = .ok ()

/-- A request succeeds in exchanging a code. -/
structure Redeems (i : Issuer) (code : Text) (r : Request) (st : State) : Prop where
  isFor : r.IsFor .token
  presents : ∃ q, TokenRequest.ofPayload (.bytes r.body) = .ok q ∧ q.code = code
  granted : (i.handle r st).1.status = 200

/-- An exchange that comes to bind a token is answered with it, where it is recorded. -/
theorem handle_of_free {i : Issuer} (safe : i.generators.UrlSafe) {st : State}
    (kept : st.book.Kept i.plan) {r : Request} (isToken : r.IsFor .token) {q : TokenRequest}
    {s : Session} (accepts : Accepts (.bytes r.body) st q s) (free : s.accessToken = none)
    (recorded : Recorded i r st) :
    (i.handle r st).1 = ⟨200, .json (st.book.nextToken i.plan).response⟩ ∧
      (i.handle r st).2.book = i.bound st s s := by
  obtain ⟨hbook, hresult⟩ := exchange_of_free kept accepts free r.clientAddress
  have hwritable : isWritable (shown (st.book.nextToken i.plan).response) = true := by
    rw [isWritable_response]
    exact congrArg (!·) (safe.not_surrogate _)
  rw [book_handle_token isToken, handle_token isToken]
  refine ⟨?_, hbook⟩
  generalize i.exchange (.bytes r.body) r.clientAddress st = result at hresult
  rcases result with ⟨outcome, st'⟩
  rcases hresult with ⟨f, -, -, hfailed⟩ | ⟨rfl, -⟩
  · rw [recorded isToken q s accepts free] at hfailed
    cases hfailed
  · rw [respond_writable hwritable]
    rfl

/-- A request that does not give the session another code, and does not exchange the one that it
has, leaves it as it is. -/
theorem SessionStep.untouched {i : Issuer} (safe : i.generators.UrlSafe) {r : Request}
    {st : State} (kept : st.book.Kept i.plan) {s s' : Session} (step : SessionStep i r st s s')
    (free : s.accessToken = none) {code : Text} (hcode : s.authorizationCode = some code)
    (recorded : Recorded i r st) (other : ¬ GivesCode r (i.handle r st).1 s.id)
    (unredeemed : ¬ Redeems i code r st) : s' = s := by
  cases step with
  | idle => rfl
  | coded gives _ => exact absurd gives other
  | exchanged isFor q accepts _ overwrites =>
    cases overwrites with
    | revoked spent =>
      rw [free] at spent
      cases spent
    | bound _ =>
      have hpresented : q.code = code :=
        Option.some.inj ((accepts.stored kept).2.symm.trans hcode)
      have hanswer := (handle_of_free safe kept isFor accepts free recorded).1
      exact absurd ⟨isFor, ⟨q, accepts.form, hpresented⟩, by rw [hanswer]⟩ unredeemed

/-- Along a run without such a request the stored session stays as it is. -/
theorem run_untouched {i : Issuer} (safe : i.generators.UrlSafe) {st : State}
    (reachable : Reachable i st) {events : List Event}
    (unrepeated : (i.run st events).book.Unrepeated i.plan) {id code : Text} {s : Session}
    (hs : st.book.store.get? id = some s) (free : s.accessToken = none)
    (hcode : s.authorizationCode = some code) (recorded : i.Always (Recorded i) st events)
    (other : ¬ Reissues i id st events)
    (unredeemed : i.Always (fun r st => ¬ Redeems i code r st) st events) :
    (i.run st events).book.store.get? id = some s := by
  induction events generalizing st with
  | nil => exact hs
  | cons e events ih =>
    obtain ⟨s', hs', hstep⟩ := after_stored reachable.kept
      (unrepeated.mono (run_draws i (i.after st e) events)) hs
    obtain ⟨hother, hrest⟩ := not_reissues_cons other
    have hsame : s' = s := by
      rcases hstep with rfl | ⟨r, rfl, hstep⟩
      · rfl
      · refine hstep.untouched safe reachable.kept free hcode (recorded.1 r rfl) ?_
          (unredeemed.1 r rfl)
        rw [reachable.kept.keyed id s hs]
        exact hother r rfl
    rw [hsame] at hs'
    exact ih (.after e reachable) unrepeated hs' recorded.2 hrest unredeemed.2

/-- **A live code can always be redeemed.** A session without a token was given a code. Whatever
happened in between, as long as exchanges were recorded, no request gave the session another code
and none exchanged the one that it has, a well-formed request that presents the code with the
session's redirect URI and an assertion that is accepted for the session's client is answered with
a token, at any time up to the expiry of the code and of the session. And that token is bound to
the session, in which nothing else has changed. -/
theorem live_code_redeemable {i : Issuer} (safe : i.generators.UrlSafe) {st : State}
    (reachable : Reachable i st) {asking : Request} {id : Text}
    (gives : GivesCode asking (i.handle asking st).1 id) {s : Session} {code : Text}
    (hs : (i.handle asking st).2.book.store.get? id = some s)
    (hcode : s.authorizationCode = some code) (free : s.accessToken = none)
    {between : List Event} {later : State}
    (reached : i.run (i.handle asking st).2 between = later)
    (unrepeated : later.book.Unrepeated i.plan)
    (recorded : i.Always (Recorded i) (i.handle asking st).2 between)
    (other : ¬ Reissues i id (i.handle asking st).2 between)
    (unredeemed : i.Always (fun r st => ¬ Redeems i code r st) (i.handle asking st).2 between)
    {r : Request} (isToken : r.IsFor .token) (recordedNow : Recorded i r later)
    {assertion text : Text}
    (written : TokenRequest.WrittenIn ⟨code, s.redirectUri, assertion⟩ r.body text)
    {client : Client} {claims : SignedToken.ClaimSet}
    (registered : later.registry.client s.clientId = .ok client)
    (verified : SignedToken.verify later.now (TokenRequest.assertionPolicy client s.clientId)
      assertion = .ok claims)
    (codeLive : later.now ≤ st.now + i.settings.authorizationCodeTtl)
    (live : later.now ≤ s.expiresAt) :
    ∃ token : Text,
      (i.handle r later).1 = ⟨200, .json (.obj [("access_token", .str token),
        ("token_type", .str "Bearer"), ("expires_in", .int i.settings.accessTokenTtl)])⟩ ∧
      (i.handle r later).2.book.store.get? id = some { s with
        accessToken := some ("Bearer " ++ token)
        tokenIssuedAt := some later.now
        tokenExpiresAt := some (later.now + i.settings.accessTokenTtl) } := by
  subst reached
  have hnext : Reachable i (i.handle asking st).2 := reachable.handle asking
  have hlater := hnext.run between
  -- the code runs from the time at which it was given
  have hexpiry : s.codeExpiresAt = some (st.now + i.settings.authorizationCodeTtl) := by
    obtain ⟨s₀, -, hs₀, -, hhandle⟩ := gives.inversion
    obtain rfl : s₀.id = id := reachable.kept.keyed id s₀ hs₀
    rw [hhandle, Book.get?_issueCode hs₀, if_pos rfl] at hs
    rw [← Option.some.inj hs]
    rfl
  have hstored := run_untouched safe hnext unrepeated hs free hcode recorded other unredeemed
  obtain rfl : s.id = id := hlater.kept.keyed id s hstored
  have hfilled : s.id ≠ [] := gives.inversion.choose_spec.1
  have hleads := Store.getByCode?_eq_some.2 ⟨s.id, hlater.complete unrepeated s.id s code hstored
    (code?_eq_some.2 ⟨hcode, written.codeFilled⟩), hfilled, hstored⟩
  have accepts : Accepts (.bytes r.body) _ ⟨code, s.redirectUri, assertion⟩ s :=
    ⟨TokenRequest.ofPayload_eq_ok_iff_writtenIn.2 ⟨text, written⟩,
      Book.sessionOfCode_of_live written.codeFilled hleads live hexpiry codeLive,
      (TokenRequest.check_of_verified registered verified).trans (if_pos rfl)⟩
  obtain ⟨hanswer, hbook⟩ := handle_of_free safe hlater.kept isToken accepts free recordedNow
  refine ⟨_, hanswer, ?_⟩
  rw [hbook]
  show (Store.withSession _ s.id _).get? s.id = _
  rw [Store.get?_withSession, if_pos rfl]
  rfl

namespace OneClient

/-- What happens before the first code is presented: it is fetched, and three seconds pass. -/
def waiting : List Event := [.request fetching, .advance 3]

theorem run_waiting : ∃ trail counters, trail.Appendable ∧
    issuer.run coded waiting = ⟨8, registry, codedBook, trail, counters⟩ := by
  obtain ⟨trail, counters, happendable, hhandle⟩ := handle_fetching
  refine ⟨trail, counters, happendable, ?_⟩
  unfold waiting
  rw [run_cons, run_cons, run_nil, after_request, hhandle]
  rfl

theorem verify_late_assertion : SignedToken.verify 8 (TokenRequest.assertionPolicy client "c")
    (signed assertionPayload) = .ok assertionClaims :=
  verify_signed rfl rfl (by decide) ofBytes_assertionPayload (eq_ok_of_toOption (by decide +kernel))

/-- The exchange is recorded, because the trail can be appended to. -/
theorem recorded_presenting : Recorded issuer presenting (issuer.run coded waiting) := by
  obtain ⟨trail, counters, happendable, hlater⟩ := run_waiting
  rw [hlater]
  intro _ q s accepts _
  obtain rfl : q = exchangeForm := Except.ok.inj (accepts.form.symm.trans ofPayload_presenting)
  have hfound : codedBook.sessionOfCode 8 (some exchangeForm.code) = .ok codedSession := rfl
  obtain rfl : s = codedSession := Except.ok.inj (accepts.code.symm.trans hfound)
  obtain ⟨trail', hrecorded, -⟩ := Audit.Trail.publish_of_appendable happendable
    (isWritable_event (s := codedSession) rfl rfl rfl rfl rfl .accessTokenIssued 8)
  exact congrArg Prod.fst hrecorded

theorem givesCode_asking : GivesCode asking (issuer.handle asking opened).1 "a" := by
  obtain ⟨trail, counters, -, hopened⟩ := opened_eq
  have hs : openedBook.store.get? "a" = some session := rfl
  have hlive : (5 : Int) ≤ session.expiresAt := by decide
  rw [hopened]
  have hgiven : issuer.handle asking ⟨5, registry, openedBook, trail, counters⟩ = _ :=
    handle_authorizationCode ⟨rfl, rfl⟩ rfl (by decide) hs hlive
  exact ⟨⟨rfl, rfl⟩, rfl, by rw [hgiven]⟩

theorem isFor_fetching {e : Endpoint} (isFor : fetching.IsFor e) : e = .authorization :=
  isFor.unique ⟨rfl, rfl⟩

/-- Only one request comes before the first code is presented. -/
theorem always_waiting {P : Request → State → Prop} (h : P fetching coded) :
    issuer.Always P coded waiting :=
  ⟨fun _ hr => Event.request.inj hr ▸ h, nofun, trivial⟩

theorem not_reissues_waiting : ¬ Reissues issuer "a" coded waiting := by
  rintro (gives | later)
  · exact absurd (isFor_fetching gives.isFor) nofun
  · exact later

theorem coded_eq_handle : coded = (issuer.handle asking opened).2 := by
  unfold coded
  rw [after_request]

/-- The first code is redeemed, three seconds after it was given. -/
theorem first_code_is_redeemable :
    issuer.generators.UrlSafe ∧ Reachable issuer opened ∧
      GivesCode asking (issuer.handle asking opened).1 "a" ∧
      coded.book.store.get? "a" = some codedSession ∧
      (issuer.run coded waiting).book.Unrepeated issuer.plan ∧
      ¬ Reissues issuer "a" coded waiting ∧
      issuer.Always (Recorded issuer) coded waiting ∧
      issuer.Always (fun r st => ¬ Redeems issuer "A" r st) coded waiting ∧
      ∃ token : Text,
        (issuer.handle presenting (issuer.run coded waiting)).1.status = 200 ∧
        ((issuer.handle presenting (issuer.run coded waiting)).2.book.store.get? "a").bind
          Session.accessToken = some ("Bearer " ++ token) := by
  obtain ⟨_, _, -, hopened⟩ := opened_eq
  obtain ⟨_, _, -, hcoded⟩ := coded_eq
  obtain ⟨_, _, -, hlater⟩ := run_waiting
  have hs : coded.book.store.get? "a" = some codedSession := by
    rw [hcoded]
    rfl
  have hother := not_reissues_waiting
  have hrecorded : issuer.Always (Recorded issuer) coded waiting :=
    always_waiting fun isToken => absurd (isFor_fetching isToken) nofun
  have hunredeemed : issuer.Always (fun r st => ¬ Redeems issuer "A" r st) coded waiting :=
    always_waiting fun redeems => absurd (isFor_fetching redeems.isFor) nofun
  have recorded := recorded_presenting
  -- the code is given by the request for it
  rw [coded_eq_handle] at hs hother hrecorded hunredeemed hlater recorded ⊢
  generalize hreached : issuer.run (issuer.handle asking opened).2 waiting = later
    at hlater recorded ⊢
  have hregistered : later.registry.client codedSession.clientId = .ok client := by
    rw [hlater]
    exact client_registry
  have hverified : SignedToken.verify later.now
      (TokenRequest.assertionPolicy client codedSession.clientId) (signed assertionPayload) =
        .ok assertionClaims := by
    rw [hlater]
    exact verify_late_assertion
  have hcodeLive : later.now ≤ opened.now + issuer.settings.authorizationCodeTtl := by
    rw [hlater, hopened]
    show (8 : Int) ≤ 5 + 10
    decide
  have hlive : later.now ≤ codedSession.expiresAt := by
    rw [hlater]
    show (8 : Int) ≤ codedSession.expiresAt
    decide
  obtain ⟨text, written⟩ := TokenRequest.ofPayload_eq_ok_iff_writtenIn.1 ofPayload_presenting
  obtain ⟨token, hanswer, hbound⟩ := live_code_redeemable urlSafe reachable_opened
    givesCode_asking hs rfl rfl hreached (unrepeated _) hrecorded hother hunredeemed
    (r := presenting) ⟨rfl, rfl⟩ recorded written hregistered hverified hcodeLive hlive
  refine ⟨urlSafe, reachable_opened, givesCode_asking, hs, unrepeated _, hother, hrecorded,
    hunredeemed, token, by rw [hanswer], ?_⟩
  rw [hbound]
  rfl

end OneClient

end Issuer

end Issuance
