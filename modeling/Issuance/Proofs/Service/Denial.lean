import Issuance.Proofs.Service.Expiry

/-!
# Issuance.Proofs.Service.Denial

**What a denial tells.** Access is denied where a session is unknown, expired or still without a
code, and where a code is unknown or too late, and all these faults have one answer (`refused`). But
an answer also tells where a request was stopped. An exchange looks for the session before anything
else of the form is checked, so its denials are all alike. A request for the code has its parameters
checked between the session and its code: one with a parameter that does not fit is told whether the
session that it names is live (`denials_alike_iff`, `misfit_parameter_tells_live_session`).
-/

namespace Issuance

/-! ### Answers that tell a kind only -/

/-- The answer to a fault without a description of its own. -/
def Http.refused (b : Fault.Body) : Http.Response := ⟨b.status, .json (b.json none)⟩

/-- The answer that denies access is told from all others by its status. -/
theorem Http.refused_eq_accessDenied {b : Fault.Body} :
    Http.refused b = Http.refused .accessDenied ↔ b = .accessDenied := by
  refine ⟨fun h => ?_, fun h => h ▸ rfl⟩
  have hstatus := congrArg Http.Response.status h
  cases b with
  | accessDenied => rfl
  | _ => exact absurd hstatus (by decide)

/-- A fault that denies access, and says no more. -/
structure Fault.IsDenial (f : Fault) : Prop where
  body : f.kind.body = .accessDenied
  plain : f.description = none

namespace Session.Book

variable {b : Book} {now : Int}

/-- The session that an id names, live or not. -/
def named? (b : Book) (id : Option Text) : Option Session := (filled? id).bind b.store.get?

theorem session_of_named {id : Option Text} {s : Session} (named : b.named? id = some s)
    (live : now ≤ s.expiresAt) : b.session now id = .ok s := by
  unfold named? at named
  unfold session
  rw [named]
  exact if_neg (by simpa [isExpiredAt] using live)

theorem named?_of_session {id : Option Text} {s : Session} (h : b.session now id = .ok s) :
    b.named? id = some s ∧ now ≤ s.expiresAt := by
  obtain ⟨id', rfl, hne, hs, live⟩ := session_ok h
  refine ⟨?_, live⟩
  unfold named?
  rw [filled?_eq_some.2 ⟨rfl, hne⟩]
  exact hs

theorem isDenial_of_session {id : Option Text} {f : Session.Fault}
    (h : b.session now id = .error f) : f.report.IsDenial := by
  unfold session at h
  split at h
  · cases h
    exact ⟨rfl, rfl⟩
  · split at h <;> cases h
    exact ⟨rfl, rfl⟩

theorem isDenial_of_sessionOfCode {code : Option Text} {f : Session.Fault}
    (h : b.sessionOfCode now code = .error f) : f.report.IsDenial := by
  unfold sessionOfCode at h
  split at h
  · cases h
    exact ⟨rfl, rfl⟩
  · split at h
    · cases h
    · split at h
      · cases h
        exact ⟨rfl, rfl⟩
      · split at h
        · cases h
          exact ⟨rfl, rfl⟩
        · split at h <;> cases h
          exact ⟨rfl, rfl⟩

end Session.Book

namespace AuthorizationRequest

/-- A request for the code has the parameters that it must have for a session of a client. -/
structure Fits (r : AuthorizationRequest) (requiredScope : Text) (registry : Registry)
    (owner : Text) : Prop where
  responseType : r.responseType = some "code"
  scope : scopeContains r.scope requiredScope = true
  clientId : r.clientId = some owner
  redirectUri : ∃ redirectUri client, r.redirectUri = some redirectUri ∧ redirectUri ≠ [] ∧
    registry.client owner = .ok client ∧ client.redirectUri = some redirectUri

/-- What refuses a request for a session without a code depends on the client of the session, and on
nothing else of it; and it is a denial where the parameters fit. -/
theorem exists_kind_of_codeless (r : AuthorizationRequest) (requiredScope : Text)
    (registry : Registry) (owner : Text) :
    ∃ kind : Issuance.Fault.Kind,
      (kind.body = .accessDenied ↔ r.Fits requiredScope registry owner) ∧
      ∀ s : Session, s.clientId = owner → (s.authorizationCode.getD []).trim = [] →
        ∃ f, r.decide requiredScope registry s = .error f ∧ f.report.kind = kind ∧
          f.report.description = none := by
  by_cases htype : r.responseType = some ("code" : Text)
  case neg =>
    refine ⟨.sessionValidation, iff_of_false nofun fun h => htype h.responseType, ?_⟩
    intro s _ _
    exact ⟨.responseType r.responseType, by simp [decide, htype], rfl, rfl⟩
  by_cases hscope : scopeContains r.scope requiredScope = true
  case neg =>
    refine ⟨.sessionValidation, iff_of_false nofun fun h => hscope h.scope, ?_⟩
    intro s _ _
    exact ⟨.scope requiredScope, by simp [decide, htype, hscope], rfl, rfl⟩
  by_cases hclient : r.clientId = some owner
  case neg =>
    refine ⟨.sessionValidation, iff_of_false nofun fun h => hclient h.clientId, ?_⟩
    rintro s rfl _
    exact ⟨.clientId r.clientId s.id, by simp [decide, htype, hscope, hclient], rfl, rfl⟩
  cases hredirect : Session.filled? r.redirectUri with
  | none =>
    refine ⟨.sessionValidation, iff_of_false nofun ?_, ?_⟩
    · rintro ⟨-, -, -, _, _, hgiven, hfilled, -⟩
      rw [Session.filled?_eq_some.2 ⟨hgiven, hfilled⟩] at hredirect
      cases hredirect
    · rintro s rfl hcode
      exact ⟨.redirectMissing, by simp [decide, htype, hscope, hclient, hredirect], rfl, rfl⟩
  | some redirectUri =>
    obtain ⟨hgiven, hfilled⟩ := Session.filled?_eq_some.1 hredirect
    cases hregistered : registry.client owner with
    | error f =>
      refine ⟨.clientConfiguration, iff_of_false nofun ?_, ?_⟩
      · rintro ⟨-, -, -, _, _, -, -, hfound, -⟩
        rw [hregistered] at hfound
        cases hfound
      · rintro s rfl hcode
        refine ⟨.client f, ?_, by cases f <;> rfl, by cases f <;> rfl⟩
        simp [decide, htype, hscope, hclient, hredirect, hregistered]
    | ok c =>
      by_cases hmatch : c.redirectUri = some redirectUri
      · refine ⟨.accessDenied, iff_of_true rfl ?_, ?_⟩
        · exact ⟨htype, hscope, hclient, redirectUri, c, hgiven, hfilled, hregistered, hmatch⟩
        · rintro s rfl hcode
          refine ⟨.noCode s.id, ?_, rfl, rfl⟩
          simp [decide, htype, hscope, hclient, hredirect, hregistered, hmatch, hcode,
            Client.redirectUrisMatch]
      · refine ⟨.sessionValidation, iff_of_false nofun ?_, ?_⟩
        · rintro ⟨-, -, -, given, client, hgiven', -, hfound, hsame⟩
          obtain rfl := Option.some.inj (hgiven.symm.trans hgiven')
          rw [hregistered] at hfound
          cases hfound
          exact hmatch hsame
        · rintro s rfl hcode
          refine ⟨.redirectMismatch redirectUri c.redirectUri, ?_, rfl, rfl⟩
          simp [decide, htype, hscope, hclient, hredirect, hregistered, hmatch,
            Client.redirectUrisMatch]

end AuthorizationRequest

namespace Issuer

open Http Session

/-! ### What is withheld -/

namespace State

variable (st : State) (seconds : Int)

theorem now_advance : (st.advance seconds).now = st.now + seconds := rfl

theorem registry_advance : (st.advance seconds).registry = st.registry := rfl

theorem book_advance : (st.advance seconds).book = st.book := rfl

end State

/-- The session that a request names is not there for it: no session has the id, or the session is
expired, or it is live without a code. -/
inductive Withheld (st : State) (id : Option Text) : Prop
  | unknown (nobody : st.book.named? id = none)
  | expired (s : Session) (named : st.book.named? id = some s) (late : s.expiresAt < st.now)
  | codeless (s : Session) (named : st.book.named? id = some s) (live : st.now ≤ s.expiresAt)
      (blank : (s.authorizationCode.getD []).trim = [])

/-- The session that an id names is live. -/
def IsLive (st : State) (id : Option Text) : Prop :=
  ∃ s, st.book.named? id = some s ∧ st.now ≤ s.expiresAt

/-- The code that a form presents was never redeemed and cannot be: the index does not have it, or
it is past its expiry, or its session is. -/
inductive Unredeemable (st : State) (code : Text) : Prop
  | unknown (nobody : st.book.store.getByCode? code = none)
  | late (s : Session) (found : st.book.store.getByCode? code = some s)
      (free : s.accessToken = none)
      (late : ∀ expiry, s.codeExpiresAt = some expiry → expiry < st.now)
  | expired (s : Session) (found : st.book.store.getByCode? code = some s)
      (free : s.accessToken = none) (late : s.expiresAt < st.now)

/-- A fault without a description is answered by its kind. -/
theorem answer_of_plain {f : Fault} (plain : f.description = none) (path : Text) (status : Nat)
    (st : State) : (respond path status (.error (.fault f), st)).1 = refused f.kind.body := by
  show (⟨f.kind.body.status, .json (f.kind.body.json (Fault.nonempty? f.description))⟩ :
    Response) = _
  rw [plain]
  rfl

theorem answer_of_denial {f : Fault} (h : f.IsDenial) (path : Text) (status : Nat) (st : State) :
    (respond path status (.error (.fault f), st)).1 = refused .accessDenied := by
  rw [answer_of_plain h.plain, h.body]

variable {i : Issuer} {r : Request} {st : State}

/-- A session that is not live is denied whatever the request asks. -/
theorem answer_of_not_live (isFor : r.IsFor .authorization) (h : ¬ IsLive st r.sessionId) :
    (i.handle r st).1 = refused .accessDenied := by
  rw [handle_authorization isFor]
  unfold authorize
  cases hs : st.book.session st.now r.sessionId with
  | ok s => exact absurd ⟨s, Book.named?_of_session hs⟩ h
  | error f => exact answer_of_denial (Book.isDenial_of_session hs) _ _ _

/-- A live session without a code is refused as the request is decided. -/
theorem answer_of_codeless (isFor : r.IsFor .authorization) {s : Session}
    (named : st.book.named? r.sessionId = some s) (live : st.now ≤ s.expiresAt)
    {f : AuthorizationRequest.Fault}
    (decided : r.authorization.decide i.settings.requiredScope st.registry s = .error f)
    (plain : f.report.description = none) :
    (i.handle r st).1 = refused f.report.kind.body := by
  rw [handle_authorization isFor]
  unfold authorize
  rw [Book.session_of_named named live]
  dsimp only
  rw [decided]
  -- a missing code is counted, and answered like any other fault
  cases f <;> exact answer_of_plain plain _ _ _

theorem answer_of_unredeemable (isFor : r.IsFor .token) {q : TokenRequest}
    (form : TokenRequest.ofPayload (.bytes r.body) = .ok q) (h : Unredeemable st q.code) :
    (i.handle r st).1 = refused .accessDenied := by
  have hlookup : ∀ s, st.book.sessionOfCode st.now (some q.code) ≠ .ok s := by
    intro s hs
    obtain ⟨-, hfound, hlive⟩ := Book.sessionOfCode_ok hs
    cases h with
    | unknown nobody =>
      rw [nobody] at hfound
      cases hfound
    | late t found free late =>
      obtain rfl := Option.some.inj (hfound.symm.trans found)
      obtain ⟨-, expiry, hexpiry, hnow⟩ := hlive free
      exact absurd (late expiry hexpiry) (by omega)
    | expired t found free late =>
      obtain rfl := Option.some.inj (hfound.symm.trans found)
      exact absurd (hlive free).1 (by omega)
  rw [handle_token isFor]
  unfold exchange
  rw [form]
  dsimp only
  unfold exchangeFor
  cases hs : st.book.sessionOfCode st.now (some q.code) with
  | ok s => exact absurd hs (hlookup s)
  | error f => exact answer_of_denial (Book.isDenial_of_sessionOfCode hs) _ _ _

/-- A form that is not one of an exchange is refused whatever is stored. -/
theorem answer_of_malformed (isFor : r.IsFor .token) {f : TokenRequest.Fault}
    (malformed : TokenRequest.ofPayload (.bytes r.body) = .error f) :
    (i.handle r st).1 = refused .invalidRequest := by
  rw [handle_token isFor]
  unfold exchange
  rw [malformed]
  rfl

/-- A request for a session that is withheld is denied, or refused as it is decided. -/
theorem answer_of_withheld (isFor : r.IsFor .authorization) {owner : Text} {kind : Fault.Kind}
    (owned : ∀ s, st.book.named? r.sessionId = some s → s.clientId = owner)
    (decided : ∀ s : Session, s.clientId = owner → (s.authorizationCode.getD []).trim = [] →
      ∃ f, r.authorization.decide i.settings.requiredScope st.registry s = .error f ∧
        f.report.kind = kind ∧ f.report.description = none)
    (h : Withheld st r.sessionId) :
    (¬ IsLive st r.sessionId ∧ (i.handle r st).1 = refused .accessDenied) ∨
      (IsLive st r.sessionId ∧ (i.handle r st).1 = refused kind.body) := by
  cases h with
  | unknown nobody =>
    have hnot : ¬ IsLive st r.sessionId := by
      rintro ⟨s, named, -⟩
      rw [nobody] at named
      cases named
    exact .inl ⟨hnot, answer_of_not_live isFor hnot⟩
  | expired s named late =>
    have hnot : ¬ IsLive st r.sessionId := by
      rintro ⟨t, named', live⟩
      obtain rfl := Option.some.inj (named.symm.trans named')
      omega
    exact .inl ⟨hnot, answer_of_not_live isFor hnot⟩
  | codeless s named live blank =>
    obtain ⟨f, hf, rfl, plain⟩ := decided s (owned s named) blank
    exact .inr ⟨⟨s, named, live⟩, answer_of_codeless isFor named live hf plain⟩

/-- **Which denials are alike.** Take two states with the same registrations, in each of which the
session that a request for the code names is unknown, expired, or live without a code. The answers
are the same if and only if the session is live in both or in neither, or the parameters of the
request are those that it must have for the client of the session. The answers to a form that
presents a code are the same in any two states where the code was never redeemed and cannot be. -/
theorem denials_alike_iff (i : Issuer) (r : Request) (st st' : State) :
    (r.IsFor .authorization → st'.registry = st.registry → ∀ owner,
      (∀ s, st.book.named? r.sessionId = some s → s.clientId = owner) →
      (∀ s, st'.book.named? r.sessionId = some s → s.clientId = owner) →
      Withheld st r.sessionId → Withheld st' r.sessionId →
      ((i.handle r st).1 = (i.handle r st').1 ↔
        (IsLive st r.sessionId ↔ IsLive st' r.sessionId) ∨
          r.authorization.Fits i.settings.requiredScope st.registry owner)) ∧
    (r.IsFor .token →
      (∀ q, TokenRequest.ofPayload (.bytes r.body) = .ok q →
        Unredeemable st q.code ∧ Unredeemable st' q.code) →
      (i.handle r st).1 = (i.handle r st').1) := by
  constructor
  · intro isFor same owner howner howner' withheld withheld'
    obtain ⟨kind, hfits, hkind⟩ := r.authorization.exists_kind_of_codeless
      i.settings.requiredScope st.registry owner
    have hanswer := answer_of_withheld isFor howner hkind withheld
    have hanswer' := answer_of_withheld isFor howner' (same ▸ hkind) withheld'
    rw [← hfits]
    -- the two answers are told apart only where the session is live in one state alone
    rcases hanswer with ⟨hlive, hanswer⟩ | ⟨hlive, hanswer⟩ <;>
      rcases hanswer' with ⟨hlive', hanswer'⟩ | ⟨hlive', hanswer'⟩ <;>
      rw [hanswer, hanswer']
    · exact iff_of_true rfl (.inl (iff_of_false hlive hlive'))
    · rw [eq_comm, refused_eq_accessDenied]
      exact ⟨.inr, fun h => h.resolve_left fun hsame => hlive (hsame.2 hlive')⟩
    · rw [refused_eq_accessDenied]
      exact ⟨.inr, fun h => h.resolve_left fun hsame => hlive' (hsame.1 hlive)⟩
    · exact iff_of_true rfl (.inl (iff_of_true hlive hlive'))
  · intro isFor hcodes
    cases form : TokenRequest.ofPayload (.bytes r.body) with
    | error f => rw [answer_of_malformed isFor form, answer_of_malformed isFor form]
    | ok q =>
      obtain ⟨h, h'⟩ := hcodes q form
      rw [answer_of_unredeemable isFor form h, answer_of_unredeemable isFor form h']

namespace OneClient

/-- The session is live and has no code. -/
theorem named?_opened : opened.now = 5 ∧ opened.registry = registry ∧
    opened.book.named? (some "a") = some session := by
  obtain ⟨_, _, -, hopened⟩ := opened_eq
  rw [hopened]
  exact ⟨rfl, rfl, rfl⟩

theorem withheld_opened : Withheld opened (some "a") := by
  obtain ⟨hnow, -, named⟩ := named?_opened
  refine .codeless session named ?_ rfl
  rw [hnow]
  decide

/-- The session is expired before it has a code. -/
theorem not_isLive_lapse : ¬ IsLive (opened.advance 200) (some "a") := by
  obtain ⟨hnow, -, named⟩ := named?_opened
  rintro ⟨s, named', live⟩
  rw [State.book_advance, named] at named'
  rw [State.now_advance, hnow, ← Option.some.inj named'] at live
  exact absurd live (by decide)

theorem withheld_lapse : Withheld (opened.advance 200) (some "a") := by
  obtain ⟨hnow, -, named⟩ := named?_opened
  rw [← State.book_advance opened 200] at named
  refine .expired session named ?_
  rw [State.now_advance, hnow]
  decide

/-- The request that fits is told the same of the session before and after it expires, and the form
with its first code is told the same of a code that is not yet drawn as of one that is too late. -/
theorem fitting_request_is_told_nothing :
    Withheld opened fetching.sessionId ∧ Withheld (opened.advance 200) fetching.sessionId ∧
      (issuer.handle fetching opened).1 = (issuer.handle fetching (opened.advance 200)).1 ∧
      Unredeemable opened exchangeForm.code ∧ Unredeemable (coded.advance 50) exchangeForm.code ∧
      (issuer.handle presenting opened).1 = (issuer.handle presenting (coded.advance 50)).1 := by
  obtain ⟨-, hregistry, named⟩ := named?_opened
  have howner : ∀ s, opened.book.named? fetching.sessionId = some s → s.clientId = "c" := by
    intro s hs
    rw [← Option.some.inj (named.symm.trans hs)]
    rfl
  have howner' : ∀ s, (opened.advance 200).book.named? fetching.sessionId = some s →
      s.clientId = "c" := by
    rw [State.book_advance]
    exact howner
  have hfits : fetching.authorization.Fits issuer.settings.requiredScope opened.registry "c" := by
    rw [hregistry]
    exact ⟨grants_fetching.responseType, grants_fetching.scope, grants_fetching.clientId, "r",
      client, grants_fetching.redirectUri, grants_fetching.redirectFilled, client_registry, rfl⟩
  have hunknown : Unredeemable opened exchangeForm.code := by
    obtain ⟨_, _, -, hopened⟩ := opened_eq
    rw [hopened]
    exact .unknown rfl
  have hlate : Unredeemable (coded.advance 50) exchangeForm.code := by
    obtain ⟨_, _, -, hcoded⟩ := coded_eq
    rw [hcoded]
    refine .late codedSession rfl rfl fun expiry hexpiry => ?_
    rw [← Option.some.inj hexpiry]
    show (15 : Int) < 5 + 50
    decide
  have hcodes : ∀ q, TokenRequest.ofPayload (.bytes presenting.body) = .ok q →
      Unredeemable opened q.code ∧ Unredeemable (coded.advance 50) q.code := by
    intro q hq
    rw [← Except.ok.inj (ofPayload_presenting.symm.trans hq)]
    exact ⟨hunknown, hlate⟩
  have halike := (denials_alike_iff issuer fetching opened (opened.advance 200)).1 ⟨rfl, rfl⟩
    (State.registry_advance opened 200) "c" howner howner' withheld_opened withheld_lapse
  exact ⟨withheld_opened, withheld_lapse, halike.2 (.inr hfits), hunknown, hlate,
    (denials_alike_iff issuer presenting opened (coded.advance 50)).2 ⟨rfl, rfl⟩ hcodes⟩

/-- A request for the code of the session that asks for something else. -/
def misfit : Request :=
  ⟨"GET", "/authorization", "response_type=token", [("session-id", "a")], [], none⟩

/-- **A parameter that does not fit tells whether the session is live.** Nothing but time passes
between the two requests: the session has no code, and then it is expired. -/
theorem misfit_parameter_tells_live_session :
    misfit.IsFor .authorization ∧
      Withheld opened misfit.sessionId ∧ Withheld (opened.advance 200) misfit.sessionId ∧
      (issuer.handle misfit opened).1 = refused .sessionValidation ∧
      (issuer.handle misfit (opened.advance 200)).1 = refused .accessDenied ∧
      (issuer.handle misfit opened).1 ≠ (issuer.handle misfit (opened.advance 200)).1 := by
  have hrefused : (issuer.handle misfit opened).1 = refused .sessionValidation := by
    obtain ⟨hnow, -, named⟩ := named?_opened
    have hlive : opened.now ≤ session.expiresAt := by
      rw [hnow]
      decide
    have htype : misfit.authorization.responseType ≠ some "code" := by decide +kernel
    exact answer_of_codeless ⟨rfl, rfl⟩ named hlive (if_pos htype) rfl
  have hdenied : (issuer.handle misfit (opened.advance 200)).1 = refused .accessDenied :=
    answer_of_not_live ⟨rfl, rfl⟩ not_isLive_lapse
  refine ⟨⟨rfl, rfl⟩, withheld_opened, withheld_lapse, hrefused, hdenied, ?_⟩
  rw [hrefused, hdenied]
  decide

end OneClient

end Issuer

end Issuance
