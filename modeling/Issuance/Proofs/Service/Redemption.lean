import Issuance.Proofs.Service.Journey

/-!
# Issuance.Proofs.Service.Redemption

**What a redemption leaves behind.** In a reachable state the session that an accepted exchange
finds is the stored session, and the code that was presented is its current code. So an exchange
leaves the store as it was, or overwrites that one session: with the mark that its token is
revoked, or with a token where none was (`ExchangeStep.store_cases`).

Two results follow. Only an authenticated redemption changes what is known of tokens
(`authenticated_of_tokenState_changed`). And an exchange that fails leaves the store as it was
just where binding a token is followed by a record and an answer
(`failed_exchange_keeps_store_iff`): the token is bound first.
-/

namespace Issuance

namespace Session

/-- What is known of the token of a session: the token, its times, and whether it is revoked. -/
def tokenState (s : Session) : Option Text × Option Int × Option Int × Bool :=
  (s.accessToken, s.tokenIssuedAt, s.tokenExpiresAt, s.tokenRevoked)

end Session

namespace Issuer

open Http Session

/-! ### The session that an exchange finds -/

theorem Accepts.unique {body : Payload} {st : State} {q q' : TokenRequest} {s s' : Session}
    (h : Accepts body st q s) (h' : Accepts body st q' s') : q = q' ∧ s = s' := by
  have hq : q = q' := Except.ok.inj (h.form.symm.trans h'.form)
  subst hq
  exact ⟨rfl, Except.ok.inj (h.code.symm.trans h'.code)⟩

/-- The session that is found is the stored one, and the code is its current one. -/
theorem Accepts.stored {i : Issuer} {body : Payload} {st : State} {q : TokenRequest} {s : Session}
    (h : Accepts body st q s) (kept : st.book.Kept i.plan) :
    st.book.store.get? s.id = some s ∧ s.authorizationCode = some q.code := by
  obtain ⟨-, hget, -⟩ := Book.sessionOfCode_ok h.code
  obtain ⟨id, -, hs, hcode⟩ := kept.sound.getByCode? hget
  rw [kept.keyed id s hs]
  exact ⟨hs, (code?_eq_some.1 hcode).1⟩

/-- The session to which the exchange binds a token is the one that it found. -/
theorem Accepts.eq_of_binds {i : Issuer} {body : Payload} {st : State} {q : TokenRequest}
    {s stored : Session} (h : Accepts body st q s) (kept : st.book.Kept i.plan)
    (binds : Binds st s stored) : stored = s :=
  Option.some.inj (binds.found.symm.trans (h.stored kept).1)

/-- The session that was found is the stored one, so either way it is the one that is spent. -/
theorem Accepts.isSome_of_spent {i : Issuer} {body : Payload} {st : State} {q : TokenRequest}
    {s : Session} (h : Accepts body st q s) (kept : st.book.Kept i.plan)
    (spent : s.accessToken.isSome ∨
      ∃ stored, st.book.store.get? s.id = some stored ∧ stored.accessToken.isSome) :
    s.accessToken.isSome := by
  rcases spent with found | ⟨stored, hstored, found⟩
  · exact found
  · rwa [Option.some.inj ((h.stored kept).1.symm.trans hstored)]

/-- What an exchange can do to the stored session: revoke its token, or bind one. -/
inductive Overwrites (i : Issuer) (st : State) (s : Session) : Session → Prop
  | revoked (spent : s.accessToken.isSome) : Overwrites i st s { s with tokenRevoked := true }
  | bound (free : s.accessToken = none) :
      Overwrites i st s (Book.withToken i.plan st.now (st.book.nextToken i.plan) s)

/-- An exchange leaves the store as it was, or overwrites the session that it found. -/
theorem ExchangeStep.store_cases {i : Issuer} {body : Payload} {clientAddress : Option Text}
    {st : State} {result : Except Failure Json × State} (kept : st.book.Kept i.plan)
    (step : ExchangeStep i body clientAddress st result) :
    result.2.book.store = st.book.store ∨
      ∃ q s s', Accepts body st q s ∧ Overwrites i st s s' ∧
        result.2.book.store = st.book.store.withSession s.id s' := by
  cases step with
  | refused _ _ _ => exact Or.inl rfl
  | missing _ _ _ _ => exact Or.inl rfl
  | replayed q s accepts drawn _ spent trail counters =>
    exact Or.inr ⟨q, s, _, accepts, .revoked (accepts.isSome_of_spent kept spent),
      Book.store_revokeToken_of_get? (b := { st.book with secretsDrawn := drawn })
        (accepts.stored kept).1⟩
  | unrecorded q s stored accepts binds f trail _ =>
    obtain rfl := accepts.eq_of_binds kept binds
    exact Or.inr ⟨q, stored, _, accepts, .bound binds.free, rfl⟩
  | issued q s stored accepts binds trail _ counters =>
    obtain rfl := accepts.eq_of_binds kept binds
    exact Or.inr ⟨q, stored, _, accepts, .bound binds.free, rfl⟩

/-- A request for `/token` is answered as its exchange goes. -/
theorem handle_token {i : Issuer} {r : Request} {st : State} (isToken : r.IsFor .token) :
    i.handle r st =
      respond (i.pathInUrl r) 200 (i.exchange (.bytes r.body) r.clientAddress st) :=
  handle_of_isFor isToken

/-- The book after a request for `/token` is the book that the exchange leaves. -/
theorem book_handle_token {i : Issuer} {r : Request} {st : State} (isToken : r.IsFor .token) :
    (i.handle r st).2.book = (i.exchange (.bytes r.body) r.clientAddress st).2.book := by
  rw [handle_token isToken, book_respond]

/-! ### What becomes of an exchange -/

/-- The answer to a code that is presented again. -/
def replayAnswer : Response :=
  ⟨400, .json (.obj [("error", .str "invalid_grant"),
    ("error_description", .str "Authorization code used too many times")])⟩

theorem answer_replayed (path : Text) (status : Nat) (id : Text) (st : State) :
    (respond path status (.error (.fault (Session.Fault.replayed id).report), st)).1 =
      replayAnswer := rfl

theorem ne_replayAnswer {answer : Response} (h : answer.status = 500) : answer ≠ replayAnswer := by
  rintro rfl
  exact absurd h (by decide)

/-- The answer to a code that the index does not have. -/
def unknownAnswer : Response :=
  ⟨403, .json (.obj [("error", .str "access_denied"),
    ("error_description", .str "Access denied by resource owner or authorization server")])⟩

/-- A code that the index does not have is refused, and nothing changes. -/
theorem exchange_of_unknown {body : Payload} {st : State} {q : TokenRequest}
    (form : TokenRequest.ofPayload body = .ok q)
    (unknown : st.book.store.getByCode? q.code = none) (i : Issuer) (clientAddress : Option Text) :
    i.exchange body clientAddress st =
      (.error (.fault Session.Fault.notFound.report), st) := by
  have hcode : st.book.sessionOfCode st.now (some q.code) = .error .notFound :=
    Book.sessionOfCode_of_unknown fun c hc => Option.some.inj hc ▸ unknown
  unfold exchange
  rw [form]
  dsimp only
  unfold exchangeFor
  rw [hcode]

/-- A code that the client of its session does not stand behind is refused for the reason found. -/
theorem exchange_of_refused {body : Payload} {st : State} {q : TokenRequest} {s : Session}
    {refusal : TokenRequest.Refusal} (form : TokenRequest.ofPayload body = .ok q)
    (code : st.book.sessionOfCode st.now (some q.code) = .ok s)
    (refused : q.check st.registry st.now s = .error refusal) (i : Issuer)
    (clientAddress : Option Text) :
    (i.exchange body clientAddress st).1 = .error refusal.failure := by
  unfold exchange
  rw [form]
  dsimp only
  unfold exchangeFor
  rw [code]
  dsimp only
  rw [refused]

/-- What cannot be recorded is an audit failure. -/
theorem kind_of_publish_error {trail trail' : Audit.Trail} {source : Audit.Source}
    {type : Audit.EventType} {s : Session} {clientAddress : Option Text}
    {extensions : List (Text × Json)} {now : Int} {f : Fault}
    (h : trail.publish source type s clientAddress extensions now = (.error f, trail')) :
    f.kind = .auditFailure := by
  unfold Audit.Trail.publish at h
  split at h <;> cases h
  rfl

/-- An exchange that comes to bind a token binds it, whatever becomes of the record. -/
theorem exchange_of_free {i : Issuer} {body : Payload} {st : State} {q : TokenRequest}
    {s : Session} (kept : st.book.Kept i.plan) (accepts : Accepts body st q s)
    (free : s.accessToken = none) (clientAddress : Option Text) :
    (i.exchange body clientAddress st).2.book = i.bound st s s ∧
      ((∃ f, (i.exchange body clientAddress st).1 = .error (.fault f) ∧ f.kind = .auditFailure ∧
          (st.trail.publish i.source .accessTokenIssued s clientAddress [] st.now).1 = .error f) ∨
        (i.exchange body clientAddress st).1 = .ok (st.book.nextToken i.plan).response ∧
          (st.trail.publish i.source .accessTokenIssued s clientAddress [] st.now).1 =
            .ok ()) := by
  have hstored := (accepts.stored kept).1
  have hstep := exchange_step i body clientAddress st
  generalize i.exchange body clientAddress st = result at hstep
  cases hstep with
  | refused _ _ unaccepted => exact absurd accepts (unaccepted q s)
  | missing q' s' accepts' unknown =>
    obtain ⟨rfl, rfl⟩ := accepts.unique accepts'
    rw [hstored] at unknown
    cases unknown
  | replayed q' s' accepts' _ _ spent =>
    obtain ⟨rfl, rfl⟩ := accepts.unique accepts'
    have hspent := accepts.isSome_of_spent kept spent
    rw [free] at hspent
    cases hspent
  | unrecorded q' s' stored accepts' binds f trail failed =>
    obtain ⟨rfl, rfl⟩ := accepts.unique accepts'
    obtain rfl := accepts.eq_of_binds kept binds
    exact ⟨rfl, Or.inl ⟨f, rfl, kind_of_publish_error failed, by rw [failed]⟩⟩
  | issued q' s' stored accepts' binds trail recorded =>
    obtain ⟨rfl, rfl⟩ := accepts.unique accepts'
    obtain rfl := accepts.eq_of_binds kept binds
    exact ⟨rfl, Or.inr ⟨rfl, by rw [recorded]⟩⟩

/-- An exchange of a code that is spent is refused as a replay, and revokes the token. -/
theorem exchange_of_spent {i : Issuer} {body : Payload} {st : State} {q : TokenRequest}
    {s : Session} (kept : st.book.Kept i.plan) (accepts : Accepts body st q s)
    (spent : s.accessToken.isSome) (clientAddress : Option Text) :
    (i.exchange body clientAddress st).1 = .error (.fault (Session.Fault.replayed s.id).report) ∧
      (i.exchange body clientAddress st).2.book.store =
        st.book.store.withSession s.id { s with tokenRevoked := true } := by
  have hstored := (accepts.stored kept).1
  have hbound : ∀ {s' stored}, Accepts body st q s' → ¬ Binds st s' stored := by
    intro s' stored accepts' binds
    obtain ⟨-, rfl⟩ := accepts.unique accepts'
    rw [binds.free] at spent
    cases spent
  have hstep := exchange_step i body clientAddress st
  generalize i.exchange body clientAddress st = result at hstep
  cases hstep with
  | refused _ _ unaccepted => exact absurd accepts (unaccepted q s)
  | missing q' s' accepts' unknown =>
    obtain ⟨rfl, rfl⟩ := accepts.unique accepts'
    rw [hstored] at unknown
    cases unknown
  | replayed q' s' accepts' drawn _ _ trail counters =>
    obtain ⟨rfl, rfl⟩ := accepts.unique accepts'
    exact ⟨rfl,
      Book.store_revokeToken_of_get? (b := { st.book with secretsDrawn := drawn }) hstored⟩
  | unrecorded q' s' stored accepts' binds _ _ _ =>
    obtain ⟨rfl, -⟩ := accepts.unique accepts'
    exact absurd binds (hbound accepts')
  | issued q' s' stored accepts' binds _ _ _ =>
    obtain ⟨rfl, -⟩ := accepts.unique accepts'
    exact absurd binds (hbound accepts')

namespace OneClient

/-- The session once its first code is exchanged. -/
def redeemedSession : Session := Book.withToken issuer.plan 5 ⟨"AA", 50, "Bearer"⟩ codedSession

/-- The book once the first code is exchanged. -/
def redeemedBook : Book := ⟨⟨[("a", redeemedSession)], [("A", "a")]⟩, [], 1, 2⟩

/-- Presenting the first code exchanges it, whatever becomes of the record. -/
theorem book_presenting {st : State} (kept : st.book.Kept issuer.plan) {trail : Audit.Trail}
    {counters : Counters} (h : st = ⟨5, registry, codedBook, trail, counters⟩) :
    (issuer.handle presenting st).2.book = redeemedBook := by
  have hbound : issuer.bound st codedSession codedSession = redeemedBook := by
    unfold bound
    rw [h]
    dsimp only
    decide
  have hexchange := exchange_of_free kept (accepts_presenting h) rfl presenting.clientAddress
  rw [book_handle_token ⟨rfl, rfl⟩, hexchange.1, hbound]

end OneClient

/-! ### Only an authenticated redemption changes what is known of a token -/

/-- **Only an authenticated redemption changes what is known of a token.** If a request for
`/token` changes the token, its times or its revocation for some session, then it changes no other
session; its form is one of an exchange and presents the session's current code; and the client
that is registered for the session has shown that the code is its own. Where the request binds a
token, none was bound, and the session and its code were live. -/
theorem authenticated_of_tokenState_changed {i : Issuer} {st : State} (reachable : Reachable i st)
    {r : Request} (isToken : r.IsFor .token) {id : Text}
    (changed : ((i.handle r st).2.book.store.get? id).map tokenState ≠
      (st.book.store.get? id).map tokenState) :
    ∃ (s s' : Session) (text : Text) (q : TokenRequest) (client : Client)
      (claims : SignedToken.ClaimSet),
      st.book.store.get? id = some s ∧ s.id = id ∧
      (i.handle r st).2.book.store.get? id = some s' ∧
      (∀ other, other ≠ id →
        (i.handle r st).2.book.store.get? other = st.book.store.get? other) ∧
      Utf8.decode? r.body = some text ∧
      Entries.get? ("grant_type" : Text) (Form.parameters text) =
        some ("authorization_code" : Text) ∧
      Entries.get? ("client_assertion_type" : Text) (Form.parameters text) =
        some ("urn:ietf:params:oauth:client-assertion-type:jwt-bearer" : Text) ∧
      Entries.get? ("code" : Text) (Form.parameters text) = some q.code ∧
      Entries.get? ("redirect_uri" : Text) (Form.parameters text) = some q.redirectUri ∧
      Entries.get? ("client_assertion" : Text) (Form.parameters text) = some q.clientAssertion ∧
      s.authorizationCode = some q.code ∧
      q.Authenticated st.registry st.now s client claims ∧
      (s'.accessToken ≠ s.accessToken →
        s.accessToken = none ∧ st.now ≤ s.expiresAt ∧
          ∃ expiry, s.codeExpiresAt = some expiry ∧ st.now ≤ expiry) := by
  rw [book_handle_token isToken] at changed ⊢
  have kept := reachable.kept
  rcases (exchange_step i (.bytes r.body) r.clientAddress st).store_cases kept with
    hsame | ⟨q, s, s', accepts, overwrites, hstore⟩
  · rw [hsame] at changed
    exact absurd rfl changed
  rw [hstore] at changed ⊢
  obtain ⟨hs, hcode⟩ := accepts.stored kept
  -- only the session that the exchange found is overwritten, so it is the one that changed
  have hid : s.id = id := by
    refine Decidable.byContradiction fun hne => changed ?_
    rw [Store.get?_withSession, if_neg hne]
  subst hid
  obtain ⟨text, -, htext, hform⟩ := TokenRequest.ofPayload_bytes_eq_ok.1 accepts.form
  obtain ⟨⟨hredirect, -⟩, ⟨hpresented, -⟩, ⟨hassertion, -⟩, hgrant, htype⟩ :=
    TokenRequest.ofForm_eq_ok.1 hform
  obtain ⟨client, claims, hclient⟩ := TokenRequest.authenticated_of_check accepts.client
  refine ⟨s, s', text, q, client, claims, hs, rfl, ?_, ?_, htext, hgrant, htype, hpresented,
    hredirect, hassertion, hcode, hclient, ?_⟩
  · rw [Store.get?_withSession, if_pos rfl]
  · intro other hne
    rw [Store.get?_withSession, if_neg (Ne.symm hne)]
  · intro hbinds
    cases overwrites with
    | revoked spent => exact absurd rfl hbinds
    | bound free =>
      obtain ⟨-, -, hlive⟩ := Book.sessionOfCode_ok accepts.code
      exact ⟨free, hlive free⟩

namespace OneClient

theorem authenticated_of_first_redemption :
    ((issuer.handle presenting coded).2.book.store.get? "a").map tokenState ≠
        (coded.book.store.get? "a").map tokenState ∧
      ∃ (s : Session) (q : TokenRequest) (c : Client) (claims : SignedToken.ClaimSet),
        coded.book.store.get? "a" = some s ∧ s.authorizationCode = some q.code ∧
        q.Authenticated coded.registry coded.now s c claims ∧ s.accessToken = none := by
  obtain ⟨trail, counters, -, hcoded⟩ := coded_eq
  have hafter := book_presenting reachable_coded.kept hcoded
  have hbefore : coded.book = codedBook := by rw [hcoded]
  have changed : ((issuer.handle presenting coded).2.book.store.get? "a").map tokenState ≠
      (coded.book.store.get? "a").map tokenState := by
    rw [hafter, hbefore]
    decide
  refine ⟨changed, ?_⟩
  obtain ⟨s, s', -, q, c, claims, hs, -, hs', -, -, -, -, -, -, -, hcode, hclient, hbinds⟩ :=
    authenticated_of_tokenState_changed reachable_coded (r := presenting) ⟨rfl, rfl⟩ changed
  refine ⟨s, q, c, claims, hs, hcode, hclient, (hbinds ?_).1⟩
  rw [hbefore] at hs
  rw [hafter] at hs'
  rw [← Option.some.inj hs, ← Option.some.inj hs']
  decide

end OneClient

/-! ### When a failed exchange leaves the store as it was -/

theorem withSession_withToken_ne {st : Store} {s : Session} {plan : Plan} {now : Int}
    {t : BearerToken} (hs : st.get? s.id = some s) (free : s.accessToken = none) :
    st.withSession s.id (Book.withToken plan now t s) ≠ st := by
  intro h
  have hget := congrArg (fun store => (store.get? s.id).bind Session.accessToken) h
  rw [Store.get?_withSession, if_pos rfl, hs, Option.bind_some, Option.bind_some, free] at hget
  cases hget

/-- The answer with a token can be written where the token can. -/
theorem isWritable_response (plan : Plan) (b : Book) :
    isWritable (shown (b.nextToken plan).response) =
      !(b.nextToken plan).token.any CodePoint.isSurrogate := by
  have hshown : shown (b.nextToken plan).response = (b.nextToken plan).response := rfl
  have hnames : ∀ name ∈ (["access_token", "token_type", "expires_in", "Bearer"] : List Text),
      name.any CodePoint.isSurrogate = false := by decide
  rw [hshown]
  simp [BearerToken.response, Book.nextToken, isWritable, haveWritable, hnames]

/-- **When a failed exchange is atomic.** A request for `/token` that is not answered with success
or as a replay leaves sessions and index as they were if and only if, where the exchange comes to
bind a token, the trail takes the record of it and the token can be written into the answer. -/
theorem failed_exchange_keeps_store_iff {i : Issuer} {st : State} (reachable : Reachable i st)
    {r : Request} (isToken : r.IsFor .token) :
    ((i.handle r st).1.status ≠ 200 → (i.handle r st).1 ≠ replayAnswer →
        (i.handle r st).2.book.store = st.book.store) ↔
      ∀ q s, Accepts (.bytes r.body) st q s → s.accessToken = none →
        (st.trail.publish i.source .accessTokenIssued s r.clientAddress [] st.now).1 = .ok () ∧
        (i.generators.secret (st.book.secretsDrawn + 1)).any CodePoint.isSurrogate = false := by
  have kept := reachable.kept
  rw [book_handle_token isToken, handle_token isToken]
  constructor
  · intro atomic q s accepts free
    obtain ⟨hbook, hresult⟩ := exchange_of_free kept accepts free r.clientAddress
    -- the store has a token that it did not have, so the answer is a success or a replay
    have hchanged : (i.exchange (.bytes r.body) r.clientAddress st).2.book.store ≠
        st.book.store := by
      rw [hbook]
      exact withSession_withToken_ne (accepts.stored kept).1 free
    generalize i.exchange (.bytes r.body) r.clientAddress st = result at *
    rcases result with ⟨outcome, st'⟩
    rcases hresult with ⟨f, hf, hkind, -⟩ | ⟨hok, hrecorded⟩
    · dsimp only at hf
      subst hf
      have hstatus := status_respond_auditFailure hkind (i.pathInUrl r) 200 st'
      refine absurd (atomic ?_ (ne_replayAnswer hstatus)) hchanged
      rw [hstatus]
      decide
    · dsimp only at hok
      subst hok
      refine ⟨hrecorded, ?_⟩
      cases hw : (i.generators.secret (st.book.secretsDrawn + 1)).any CodePoint.isSurrogate with
      | false => rfl
      | true =>
        have hunwritable : isWritable (shown (st.book.nextToken i.plan).response) = false := by
          rw [isWritable_response]
          exact congrArg (!·) hw
        have hstatus := status_respond_unwritable hunwritable (i.pathInUrl r) 200 st'
        refine absurd (atomic ?_ (ne_replayAnswer hstatus)) hchanged
        rw [hstatus]
        decide
  · intro hrecords hstatus hreplay
    have hstep := exchange_step i (.bytes r.body) r.clientAddress st
    generalize i.exchange (.bytes r.body) r.clientAddress st = result at *
    cases hstep with
    | refused _ _ _ => rfl
    | missing _ _ _ _ => rfl
    | replayed q s accepts drawn _ _ trail counters =>
      exact absurd (answer_replayed _ _ s.id _) hreplay
    | unrecorded q s stored accepts binds f trail failed =>
      have hok := (hrecords q s accepts binds.free).1
      rw [failed] at hok
      cases hok
    | issued q s stored accepts binds trail recorded counters =>
      have hw : isWritable (shown (st.book.nextToken i.plan).response) = true := by
        rw [isWritable_response]
        exact congrArg (!·) (hrecords q s accepts binds.free).2
      refine absurd ?_ hstatus
      rw [respond_writable hw]

namespace OneClient

/-- The state with the first code, and with a trail whose last hash is no hash. -/
def spoiled : State :=
  issuer.after coded (.trail (.directory none (some (Bytes.ofAscii "zz")) true))

theorem reachable_spoiled : Reachable issuer spoiled := .after _ reachable_coded

/-- **A failed exchange is not atomic where it cannot be recorded.** The request is answered with
500, and the code is spent: a token is bound to its session that nobody has been given. -/
theorem unrecorded_exchange_spends_code :
    Reachable issuer spoiled ∧ presenting.IsFor .token ∧
      (issuer.handle presenting spoiled).1.status = 500 ∧
      (issuer.handle presenting spoiled).1 ≠ replayAnswer ∧
      (issuer.handle presenting spoiled).2.book.store ≠ spoiled.book.store := by
  obtain ⟨trail, counters, -, hcoded⟩ := coded_eq
  have hspoiled : spoiled = ⟨5, registry, codedBook,
      .directory none (some (Bytes.ofAscii "zz")) true, counters⟩ := by
    unfold spoiled
    rw [hcoded]
    rfl
  have kept := reachable_spoiled.kept
  have hafter := book_presenting kept hspoiled
  have hcorrupt : Audit.Trail.lastHash (some (Bytes.ofAscii "zz")) = .error .corruptState := by
    unfold Audit.Trail.lastHash
    dsimp only
    rw [Utf8.decode?_ascii (by decide)]
    rfl
  obtain ⟨fault, hfailed⟩ := Audit.Trail.publish_of_unreadable hcorrupt none true issuer.source
    .accessTokenIssued codedSession presenting.clientAddress [] 5
  have hstatus : (issuer.handle presenting spoiled).1.status = 500 := by
    obtain ⟨-, hresult⟩ := exchange_of_free kept (accepts_presenting hspoiled) rfl
      presenting.clientAddress
    rw [handle_token ⟨rfl, rfl⟩]
    generalize issuer.exchange (.bytes presenting.body) presenting.clientAddress spoiled = result
      at hresult
    rcases result with ⟨outcome, st⟩
    rcases hresult with ⟨f, rfl, hkind, -⟩ | ⟨-, hrecorded⟩
    · exact status_respond_auditFailure hkind _ 200 st
    · rw [hspoiled, hfailed] at hrecorded
      cases hrecorded
  refine ⟨reachable_spoiled, ⟨rfl, rfl⟩, hstatus, ne_replayAnswer hstatus, ?_⟩
  rw [hafter, hspoiled]
  show redeemedBook.store ≠ codedBook.store
  decide

/-- The exchange of the first code with another redirect URI than the session's. -/
def divertedForm : TokenRequest := ⟨"A", "x", signed assertionPayload⟩

/-- The request with that form. -/
def diverting : Request :=
  { presenting with body := Bytes.ofAscii (Form.encode divertedForm.parameters) }

theorem ofPayload_diverting :
    TokenRequest.ofPayload (.bytes diverting.body) = .ok divertedForm :=
  ofPayload_presented (by decide) assertionPayload

theorem check_diverted : divertedForm.check registry 5 codedSession =
    .error (.redirectMismatch "x" "r") :=
  (check_presented "x").trans (if_neg (by decide))

/-- With another redirect URI the exchange of a live code is refused, though the client is the
right one, and nothing changes in the store. -/
theorem diverted_exchange_keeps_store :
    Reachable issuer coded ∧ diverting.IsFor .token ∧
      coded.book.sessionOfCode coded.now (some divertedForm.code) = .ok codedSession ∧
      (issuer.handle diverting coded).1.status = 400 ∧
      (issuer.handle diverting coded).1 ≠ replayAnswer ∧
      (issuer.handle diverting coded).2.book.store = coded.book.store := by
  obtain ⟨trail, counters, -, hcoded⟩ := coded_eq
  have isFor : diverting.IsFor .token := ⟨rfl, rfl⟩
  have hcode : coded.book.sessionOfCode coded.now (some divertedForm.code) = .ok codedSession := by
    rw [hcoded]
    exact sessionOfCode_codedBook
  have hcheck : divertedForm.check coded.registry coded.now codedSession =
      .error (.redirectMismatch "x" "r") := by
    rw [hcoded]
    exact check_diverted
  have hresult : (issuer.exchange (.bytes diverting.body) diverting.clientAddress coded).1 =
      .error (TokenRequest.Refusal.redirectMismatch "x" "r").failure :=
    exchange_of_refused ofPayload_diverting hcode hcheck issuer diverting.clientAddress
  have hanswer : (issuer.handle diverting coded).1 = ⟨400, .json (.obj [
      ("error", .str "invalid_grant"), ("error_description", .str "Invalid grant")])⟩ := by
    rw [handle_token isFor]
    generalize issuer.exchange (.bytes diverting.body) diverting.clientAddress coded = result
      at hresult
    rcases result with ⟨outcome, st⟩
    dsimp only at hresult
    subst hresult
    rfl
  have hreplay : (issuer.handle diverting coded).1 ≠ replayAnswer := by
    rw [hanswer]
    decide
  have hkept := failed_exchange_keeps_store_iff reachable_coded isFor
  refine ⟨reachable_coded, isFor, hcode, by rw [hanswer], hreplay, hkept.2 ?_ ?_ hreplay⟩
  · intro q s accepts
    -- no session accepts the form, whatever is bound to it
    obtain rfl : q = divertedForm :=
      Except.ok.inj (accepts.form.symm.trans ofPayload_diverting)
    obtain rfl : s = codedSession := Except.ok.inj (accepts.code.symm.trans hcode)
    cases accepts.client.symm.trans hcheck
  · rw [hanswer]
    decide

end OneClient

end Issuer

end Issuance
