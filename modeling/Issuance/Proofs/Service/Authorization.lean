import Issuance.Proofs.Service.Confinement
import Issuance.Proofs.Service.Frame

/-!
# Issuance.Proofs.Service.Authorization

**Who a code is handed to.** `AuthorizationRequest.Grants` says of a request all that it must have
to be granted, and `sent_of_status` what a request did that was answered with a code: it named a
live session, it was granted, and it was recorded. No other endpoint ever answers with a code
(`isFor_of_grant`).

The two ends are far apart: a code is handed out by one request, and the session was opened by
another, at any earlier time. What ties them together is that a session stays as it was opened, so
that its client and its redirect URI are still those of the token that opened it
(`code_handed_to_own_client`).
-/

namespace Issuance

namespace SessionRequest

namespace Validator

/-- A body whose request is valid holds a verified token, and the request is that of its claims. -/
theorem verifies_of_valid {v : Validator} {registry : Registry} {now : Int} {body : Payload}
    {clientAddress : Option Text} {q : SessionRequest}
    (valid : (v.validate registry now body clientAddress).result = .ok q) :
    ∃ client claims, v.Verifies registry now body q.clientId client claims ∧
      OfClaims client claims clientAddress q := by
  unfold validate at valid
  cases hdocument : SessionRequest.document body with
  | error f =>
    rw [hdocument] at valid
    cases valid
  | ok document =>
    rw [hdocument] at valid
    obtain ⟨⟨clientId, envelope⟩, payload, token, client, claims, houter, hopened, htoken,
      hclient, hverified, hr⟩ := validateDocument_eq_ok.1 valid
    obtain ⟨rfl, hclaims⟩ := ofClaims_eq_ok.1 hr
    exact ⟨client, claims, ⟨document, envelope, payload, token, hdocument, houter, hopened, htoken,
      hclient, hverified⟩, hclaims⟩

end Validator

end SessionRequest

namespace Session

/-- Secrets are written in the URL alphabet. -/
def Generators.UrlSafe (g : Generators) : Prop :=
  ∀ n, ∀ c ∈ g.secret n, ∃ v < 64, c = Base64.urlChar v

namespace Generators.UrlSafe

/-- What holds of the 64 characters holds of every character of a secret. -/
theorem forall_mem {g : Generators} (h : g.UrlSafe) {p : CodePoint → Bool}
    (hp : ∀ v < 64, p (Base64.urlChar v) = true) (n : Nat) : ∀ c ∈ g.secret n, p c = true := by
  intro c hc
  obtain ⟨v, hv, rfl⟩ := h n c hc
  exact hp v hv

/-- There is nothing to trim from a secret. -/
theorem trim {g : Generators} (h : g.UrlSafe) (n : Nat) : (g.secret n).trim = g.secret n := by
  refine Text.trim_of_none fun c hc => ?_
  simpa using h.forall_mem (p := fun c => !c.isBlank) (by decide) n c hc

/-- A secret can be written into any answer. -/
theorem not_surrogate {g : Generators} (h : g.UrlSafe) (n : Nat) :
    (g.secret n).any CodePoint.isSurrogate = false := by
  rw [List.any_eq_false]
  intro c hc
  simpa using h.forall_mem (p := fun c => !c.isSurrogate) (by decide) n c hc

end Generators.UrlSafe

end Session

namespace Issuer

open Http Session SessionRequest

/-! ### What a request for the code does -/

/-- A request for `/authorization` is answered as it is decided. -/
theorem handle_authorization {i : Issuer} {r : Request} {st : State}
    (isFor : r.IsFor .authorization) :
    i.handle r st = respond (i.pathInUrl r) 200
      (i.authorize r.sessionId r.authorization r.clientAddress st) :=
  handle_of_isFor isFor

theorem shown_response (g : AuthorizationRequest.Grant) : shown g.response = g.response := by
  cases hs : g.state <;> simp only [AuthorizationRequest.Grant.response, hs] <;> rfl

/-- What a request did that was answered with a code. -/
theorem sent_of_status {i : Issuer} {r : Request} {st : State} (isFor : r.IsFor .authorization)
    (granted : (i.handle r st).1.status = 200) :
    ∃ s client g trail counters, st.book.session st.now r.sessionId = .ok s ∧
      r.authorization.Grants i.settings.requiredScope st.registry s client g ∧
      st.trail.publish i.source .authorizationSent s r.clientAddress [] st.now = (.ok (), trail) ∧
      i.handle r st = (⟨200, .json g.response⟩, { st with trail, counters }) := by
  rw [handle_authorization isFor] at granted ⊢
  obtain ⟨v, hv, hwritable, -⟩ := respond_ok granted
  have hstep := authorize_step i r.sessionId r.authorization r.clientAddress st
  generalize i.authorize r.sessionId r.authorization r.clientAddress st = result at hv hstep
  cases hstep with
  | refused _ _ => cases hv
  | unrecorded _ _ _ _ _ => cases hv
  | sent s client g found grants trail recorded counters =>
    obtain rfl : g.response = v := Except.ok.inj hv
    refine ⟨s, client, g, trail, counters, found, grants, recorded, ?_⟩
    rw [respond_writable hwritable, shown_response]

/-- A request that is granted is answered with the code, where the record is taken and the answer
can be written. -/
theorem handle_of_grants {i : Issuer} {r : Request} (st : State) (isFor : r.IsFor .authorization)
    {s : Session} {client : Client} {g : AuthorizationRequest.Grant} {trail : Audit.Trail}
    (found : st.book.session st.now r.sessionId = .ok s)
    (grants : r.authorization.Grants i.settings.requiredScope st.registry s client g)
    (recorded : st.trail.publish i.source .authorizationSent s r.clientAddress [] st.now =
      (.ok (), trail)) (writable : isWritable g.response = true) :
    ∃ counters, i.handle r st = (⟨200, .json g.response⟩, { st with trail, counters }) := by
  have hgranted := AuthorizationRequest.decide_eq_ok.2 ⟨client, grants⟩
  rw [← shown_response g] at writable ⊢
  rw [handle_authorization isFor]
  unfold authorize publish
  rw [found]
  dsimp only
  rw [hgranted]
  dsimp only
  rw [recorded]
  exact ⟨_, respond_writable writable _ _ _⟩

/-- A request for a session is never answered with 200. -/
theorem status_handle_opening {i : Issuer} {r : Request} {st : State} (isFor : r.IsFor .session) :
    (i.handle r st).1.status ≠ 200 := by
  rw [handle_opening isFor]
  rcases i.openSession (.bytes r.body) r.clientAddress st with ⟨f | v, st'⟩
  · exact f.status_ne_ok
  · unfold respond
    dsimp only
    split
    · exact (by decide : (201 : Nat) ≠ 200)
    · exact (by decide : Failure.internal.status ≠ 200)

/-- What an exchange did that was answered with a token. -/
theorem issued_of_status {i : Issuer} {r : Request} {st : State} (isFor : r.IsFor .token)
    (granted : (i.handle r st).1.status = 200) :
    ∃ q s stored trail counters, Accepts (.bytes r.body) st q s ∧ Binds st s stored ∧
      st.trail.publish i.source .accessTokenIssued s r.clientAddress [] st.now = (.ok (), trail) ∧
      i.handle r st = (⟨200, .json (st.book.nextToken i.plan).response⟩,
        { st with book := i.bound st s stored, trail, counters }) := by
  rw [handle_token isFor] at granted ⊢
  obtain ⟨v, hv, hwritable, -⟩ := respond_ok granted
  have hstep := exchange_step i (.bytes r.body) r.clientAddress st
  generalize i.exchange (.bytes r.body) r.clientAddress st = result at hv hstep
  cases hstep with
  | refused _ _ _ => cases hv
  | replayed _ _ _ _ _ _ _ _ => cases hv
  | missing _ _ _ _ => cases hv
  | unrecorded _ _ _ _ _ _ _ _ => cases hv
  | issued q s stored accepts binds trail recorded counters =>
    obtain rfl : (st.book.nextToken i.plan).response = v := Except.ok.inj hv
    exact ⟨q, s, stored, trail, counters, accepts, binds, recorded, respond_writable hwritable _ _ _⟩

/-- No other endpoint answers with a code. -/
theorem isFor_of_grant {i : Issuer} {r : Request} {st : State} {g : AuthorizationRequest.Grant}
    (h : (i.handle r st).1 = ⟨200, .json g.response⟩) : r.IsFor .authorization := by
  have hgranted : (i.handle r st).1.status = 200 := by rw [h]
  rcases isFor_or_notServed i r st with ⟨e, isFor⟩ | ⟨hstatus, -⟩
  · cases e with
    | authorization => exact isFor
    | session => exact absurd hgranted (status_handle_opening isFor)
    | authorizationCode =>
      have hstep := code_step i st isFor
      generalize i.handle r st = result at h hgranted hstep
      cases hstep with
      | refused f => exact absurd hgranted f.status_ne_ok
      | given _ _ _ _ _ _ => cases h
    | token =>
      obtain ⟨_, _, _, _, _, -, -, -, hhandle⟩ := issued_of_status isFor hgranted
      rw [hhandle] at h
      -- the two answers have other members
      have hmembers := Json.obj.inj (Content.json.inj (Response.mk.inj h).2)
      have hname : (("access_token" : Text)) = "authorizationCode" :=
        congrArg Prod.fst (List.cons.inj hmembers).1
      exact absurd hname (by decide)
    | metrics =>
      rw [handle_of_isFor isFor] at h
      cases h
  · rw [hgranted] at hstatus
    exact absurd hstatus (by decide)

/-- What is handed out is the code that was drawn for the session, for there is nothing to trim. -/
theorem code_of_grants {i : Issuer} (safe : i.generators.UrlSafe) {st : State}
    (kept : st.book.Kept i.plan) {id : Text} {s : Session}
    (hs : st.book.store.get? id = some s) {r : AuthorizationRequest} {requiredScope : Text}
    {client : Client} {g : AuthorizationRequest.Grant}
    (grants : r.Grants requiredScope st.registry s client g) :
    s.code? = some g.code ∧ ∃ n, g.code = i.generators.secret n := by
  obtain ⟨code, hcode, htrimmed⟩ := grants.exists_code
  obtain ⟨n, -, -, hn⟩ := kept.codes id s code hs hcode
  have hsame : g.code = code := by
    rw [htrimmed, hn]
    exact safe.trim n
  rw [hsame]
  exact ⟨hcode, n, hn⟩

/-! ### The client of the session -/

/-- **A code is handed to the client of its session only.** Let nobody be registered in a run from
a fresh issuer, and let a request for `/authorization` be answered with 200 after it. Then the
answer has the current code of the session that the request names, apart from blanks at its ends,
and that session is live. The session was opened by a request in the run, and the token in that
request was verified: the parameter `client_id` is the client in its claims; the parameter
`redirect_uri` and the redirect URI in the answer are the redirect URI in its claims, and the one
that is registered for the client. -/
theorem code_handed_to_own_client {i : Issuer} {now : Int} {registry : Registry}
    {events : List Event} (fixed : ∀ e ∈ events, ∀ registered, e ≠ .registry registered)
    {st : State} (reached : i.run (.initial now registry) events = st) {r : Request}
    (isFor : r.IsFor .authorization) (granted : (i.handle r st).1.status = 200) :
    ∃ (id code : Text) (s : Session) (g : AuthorizationRequest.Grant) (earlier later : List Event)
      (opening : Request) (q : SessionRequest) (client : Client) (claims : SignedToken.ClaimSet),
      (i.handle r st).1 = ⟨200, .json g.response⟩ ∧
      r.sessionId = some id ∧ st.book.store.get? id = some s ∧
      s.authorizationCode = some code ∧ g.code = code.trim ∧ st.now ≤ s.expiresAt ∧
      events = earlier ++ .request opening :: later ∧
      (∃ s₀, Opens i opening (i.run (.initial now registry) earlier) q id s₀ ∧
        s.asOpened = s₀.asOpened) ∧
      i.validator.Verifies registry (i.run (.initial now registry) earlier).now
        (.bytes opening.body) s.clientId client claims ∧
      r.parameter? "client_id" = some s.clientId ∧
      SignedToken.claim claims "client_id" = .str s.clientId ∧
      r.parameter? "redirect_uri" = some g.redirectUri ∧
      SignedToken.claim claims "redirect_uri" = .str g.redirectUri ∧
      registry.client s.clientId = .ok client ∧ client.redirectUri = some g.redirectUri := by
  subst reached
  obtain ⟨s, client, g, _, _, hfound, grants, -, hhandle⟩ := sent_of_status isFor granted
  obtain ⟨id, hid, -, hs, hlive⟩ := Book.session_ok hfound
  have hcode : s.authorizationCode = some (s.authorizationCode.getD []) := by
    cases hcode : s.authorizationCode with
    | some code => rfl
    | none => exact absurd (grants.code.trans (by rw [hcode]; rfl)) grants.codeFilled
  -- back to the request that opened the session
  obtain ⟨earlier, opening, later, q, rfl, s₀, opens, hsame⟩ := exists_opens hs
  have hregistry : ∀ before after : List Event, earlier ++ .request opening :: later =
      before ++ after → (i.run (.initial now registry) before).registry = registry := by
    intro before after hsplit
    refine registry_run i fun e he => fixed e ?_
    rw [hsplit]
    exact List.mem_append_left _ he
  obtain ⟨client', claims, verifies, hclaims⟩ := Validator.verifies_of_valid opens.valid
  rw [hregistry _ _ rfl] at verifies
  have hregistered : registry.client s.clientId = .ok client := by
    have h := grants.registered
    rwa [hregistry _ [] (List.append_nil _).symm] at h
  -- the session has the client and the redirect URI that it was opened with
  have hclient : s.clientId = q.clientId :=
    (congrArg Session.clientId hsame).trans (congrArg Session.clientId opens.asOpened)
  rw [← hclient] at verifies
  obtain rfl : client' = client := by
    obtain ⟨_, _, _, _, -, -, -, -, hregistered', -⟩ := verifies
    exact Except.ok.inj (hregistered'.symm.trans hregistered)
  have hredirect : q.redirectUri = g.redirectUri :=
    Option.some.inj (hclaims.registeredRedirect.symm.trans grants.sameRedirect)
  refine ⟨id, _, s, g, earlier, later, opening, q, client', claims, by rw [hhandle], hid, hs, hcode,
    grants.code, hlive, rfl, ⟨s₀, opens, hsame⟩, verifies, grants.clientId, ?_, grants.redirectUri,
    ?_, hregistered, grants.sameRedirect⟩
  · rw [hclaims.tokenClient, hclaims.sameClient, hclient]
  · rw [hclaims.tokenRedirect, hredirect]

namespace OneClient

theorem urlSafe : issuer.generators.UrlSafe := by
  intro n c hc
  exact ⟨0, by decide, (List.mem_replicate.1 hc).2⟩

/-- The parameters of the request for the code. -/
def fetchingForm : List (Text × Text) :=
  [("response_type", "code"), ("scope", "o"), ("client_id", "c"), ("redirect_uri", "r"),
    ("state", "t")]

/-- The request for the code of the session. -/
def fetching : Request :=
  ⟨"GET", "/authorization", Form.encode fetchingForm, [("session-id", "a")], [], none⟩

/-- What is granted to it. -/
def grant : AuthorizationRequest.Grant := ⟨"A", "r", some "t"⟩

theorem parameters_fetching : Form.parameters fetching.query = fetchingForm := by
  have hscalar : ∀ p ∈ fetchingForm, p.1.IsScalar ∧ p.2.IsScalar := by decide
  have hdecode := (Form.spellsAll_encode fetchingForm).decode hscalar
  unfold Form.parameters fetching
  rw [hdecode]
  rfl

/-- The session with a code that it was given, whatever the code. -/
def given (code : Text) (expiry : Option Int) : Session :=
  { session with authorizationCode := some code, codeExpiresAt := expiry }

/-- The request is granted wherever the code of the session is `A` between its blanks. -/
theorem grants_of_trim (code : Text) (expiry : Option Int) (htrim : code.trim = "A") :
    fetching.authorization.Grants issuer.settings.requiredScope registry (given code expiry)
      client grant := by
  have hparameter : ∀ name, fetching.parameter? name = Entries.get? name fetchingForm := by
    intro name
    unfold Request.parameter?
    rw [parameters_fetching]
  exact {
    responseType := hparameter "response_type"
    scope := by
      show scopeContains (fetching.parameter? "scope") "o" = true
      rw [hparameter]
      decide
    clientId := hparameter "client_id"
    redirectUri := hparameter "redirect_uri"
    redirectFilled := by decide
    registered := client_registry
    sameRedirect := rfl
    code := htrim.symm
    codeFilled := by decide
    state := (hparameter "state").symm }

theorem grants_fetching :
    fetching.authorization.Grants issuer.settings.requiredScope registry codedSession client
      grant :=
  grants_of_trim "A" (some 15) (by decide)

theorem handle_of_trim {code : Text} (htrim : code.trim = "A") {expiry : Option Int}
    (book : Book) (hs : book.store.get? "a" = some (given code expiry)) {trail : Audit.Trail}
    (happendable : trail.Appendable) (counters : Counters) :
    ∃ trail' counters', trail'.Appendable ∧
      issuer.handle fetching ⟨5, registry, book, trail, counters⟩ =
        (⟨200, .json grant.response⟩, ⟨5, registry, book, trail', counters'⟩) := by
  obtain ⟨trail', hrecorded, happendable'⟩ := Audit.Trail.publish_of_appendable happendable
    (isWritable_event (s := given code expiry) rfl rfl rfl rfl rfl .authorizationSent 5)
  have hlive : (5 : Int) ≤ (given code expiry).expiresAt := by
    show (5 : Int) ≤ session.expiresAt
    decide
  obtain ⟨counters', hhandle⟩ := handle_of_grants (i := issuer) (r := fetching)
    ⟨5, registry, book, trail, counters⟩ ⟨rfl, rfl⟩ (Book.session_of_live (by decide) hs hlive)
    (grants_of_trim code expiry htrim) hrecorded (by decide)
  exact ⟨trail', counters', happendable', hhandle⟩

theorem handle_fetching : ∃ trail counters, trail.Appendable ∧
    issuer.handle fetching coded = (⟨200, .json grant.response⟩,
      ⟨5, registry, codedBook, trail, counters⟩) := by
  obtain ⟨trail, counters, happendable, hcoded⟩ := coded_eq
  have hs : codedBook.store.get? "a" = some (given "A" (some 15)) := rfl
  rw [hcoded]
  exact handle_of_trim (by decide) codedBook hs happendable counters

/-- The client is handed the first code of its session. -/
theorem first_code_is_handed_over :
    issuer.run (.initial 5 registry) [.request opening, .request asking] = coded ∧
      fetching.IsFor .authorization ∧ (issuer.handle fetching coded).1.status = 200 ∧
      ∃ (s : Session) (g : AuthorizationRequest.Grant) (c : Client)
        (claims : SignedToken.ClaimSet),
        coded.book.store.get? "a" = some s ∧
        (issuer.handle fetching coded).1 = ⟨200, .json g.response⟩ ∧
        SignedToken.claim claims "redirect_uri" = .str g.redirectUri ∧
        registry.client s.clientId = .ok c ∧ c.redirectUri = some g.redirectUri := by
  obtain ⟨_, _, -, hhandle⟩ := handle_fetching
  have hgranted : (issuer.handle fetching coded).1.status = 200 := by rw [hhandle]
  have hreached : issuer.run (.initial 5 registry) [.request opening, .request asking] =
      coded := by
    rw [run_cons, run_cons, run_nil]
    unfold coded opened
    rfl
  obtain ⟨id, -, s, g, -, -, -, -, c, claims, hanswer, hid, hs, -, -, -, -, -, -, -, -, -,
    hredirect, hregistered, hsame⟩ :=
    code_handed_to_own_client (by simp) hreached ⟨rfl, rfl⟩ hgranted
  obtain rfl : "a" = id := Option.some.inj hid
  exact ⟨hreached, ⟨rfl, rfl⟩, hgranted, s, g, c, claims, hs, hanswer, hredirect, hregistered,
    hsame⟩

end OneClient

end Issuer

end Issuance
