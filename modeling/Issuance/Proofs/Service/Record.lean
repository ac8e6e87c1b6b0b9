import Issuance.Proofs.Audit.History
import Issuance.Proofs.Json.Reader
import Issuance.Proofs.Service.Authorization

/-!
# Issuance.Proofs.Service.Record

**The audit trail is an exact record.** Four endpoints write the log, the store and the answer at
different moments, and between any two of them something can fail. `Faithful` is what every request
restores: the trail tells, of every session, exactly what has become of it (`Audit.Exact`), and
whatever happens next to a stored session can be recorded (`Audit.Recordable`). The second half
carries the first: a token is bound and revoked before that is recorded, so the record must not
fail. It does not, because a session is stored only after its start was recorded, and later events
tell the same texts, with the address of a request that came over the wire.
-/

namespace Issuance

/-! ### What a token claims -/

namespace SignedToken

theorem hasDistinctKeys_of_verify {now : Int} {p : Policy} {token : Text} {claims : ClaimSet}
    (h : verify now p token = .ok claims) : (Json.obj claims).HasDistinctKeys := by
  obtain ⟨-, key, t, -, -, -, -, hclaims, -⟩ := verify_eq_ok.1 h
  unfold SignedToken.claims at hclaims
  split at hclaims
  · cases hclaims
  · rename_i hpayload
    cases hclaims
    exact Json.hasDistinctKeys_of_ofBytes hpayload
  · cases hclaims

end SignedToken

theorem EvidenceRequest.hasDistinctKeys_json {claim : Json} (h : claim.HasDistinctKeys)
    {e : EvidenceRequest} (he : ofClaim? claim = some e) : e.json.HasDistinctKeys := by
  obtain ⟨members, rfl, hkeys, hscores⟩ := scores_of_ofClaim? he
  refine .obj (hkeys.nodup (by decide)) fun score hscore => ?_
  exact h.members.2 _ (Entries.mem_of_get? ((hscores score.1 score.2).1 hscore).2.1)

namespace SessionRequest

namespace Validator

/-- What a valid request states was read from a token, so it has distinct keys. -/
theorem hasDistinctKeys_of_valid {v : Validator} {registry : Registry} {now : Int}
    {body : Payload} {clientAddress : Option Text} {q : SessionRequest}
    (valid : (v.validate registry now body clientAddress).result = .ok q) :
    (∀ stated ∈ [q.subject, q.persistentSessionId, q.clientSessionId],
      stated.HasDistinctKeys) ∧ ∀ e, q.evidence = some e → e.json.HasDistinctKeys := by
  obtain ⟨client, claims, ⟨_, _, _, _, -, -, -, -, -, hverified⟩, hclaims⟩ :=
    verifies_of_valid valid
  have hdistinct := SignedToken.hasDistinctKeys_of_verify hverified
  constructor
  · rw [hclaims.subject, hclaims.persistentSessionId, hclaims.clientSessionId]
    simp only [List.forall_mem_cons, List.not_mem_nil, false_imp_iff, implies_true, and_true]
    exact ⟨hdistinct.member _, hdistinct.member _, hdistinct.member _⟩
  · intro e he
    rw [hclaims.evidence] at he
    exact EvidenceRequest.hasDistinctKeys_json (hdistinct.member _) he

theorem clientAddress_of_valid {v : Validator} {registry : Registry} {now : Int}
    {body : Payload} {clientAddress : Option Text} {q : SessionRequest}
    (valid : (v.validate registry now body clientAddress).result = .ok q) :
    q.clientAddress = clientAddress := by
  obtain ⟨_, _, -, hclaims⟩ := verifies_of_valid valid
  exact hclaims.clientAddress

end Validator

end SessionRequest

/-! ### Requests over the wire -/

namespace Http

/-- A request as it comes over the wire: its texts are read from bytes, and have no lone
surrogates. -/
structure Request.IsScalar (r : Request) : Prop where
  query : r.query.IsScalar
  headers : ∀ h ∈ r.headers, h.2.IsScalar
  peer : ∀ a, r.peer = some a → a.IsScalar

namespace Request.IsScalar

variable {r : Request}

theorem parameter (h : r.IsScalar) {name t : Text} (ht : r.parameter? name = some t) :
    t.IsScalar :=
  Form.not_surrogate_of_parameters h.query ht

theorem header (h : r.IsScalar) {name t : Text} (ht : r.header? name = some t) : t.IsScalar := by
  obtain ⟨found, hfound, rfl⟩ := Option.map_eq_some_iff.1 ht
  exact h.headers found (List.mem_of_find?_eq_some hfound)

theorem clientAddress (h : r.IsScalar) {a : Text} (ha : r.clientAddress = some a) :
    a.IsScalar := by
  unfold Request.clientAddress at ha
  split at ha
  · rename_i hops hhops
    have hscalar := h.header (Session.filled?_eq_some.1 hhops).1
    obtain ⟨heq, -⟩ := Session.filled?_eq_some.1 ha
    obtain rfl := Option.some.inj heq
    have hpiece : (Text.pieces (· = ',') hops).headD [] ∈ Text.pieces (· = ',') hops := by
      cases hpieces : Text.pieces (· = ',') hops with
      | nil => exact absurd hpieces (Text.pieces_ne_nil _ hops)
      | cons piece rest => exact List.mem_cons_self
    -- the address is a piece of the header, without the blanks around it
    exact fun c hc => hscalar c (Text.mem_of_mem_pieces hpiece (Text.mem_of_mem_trim hc))
  · exact h.peer a ha

end Request.IsScalar

/-- A request is answered with the code of a session. -/
structure HandsOut (r : Request) (answer : Response) (id : Text) : Prop where
  isFor : r.IsFor .authorization
  named : r.sessionId = some id
  granted : answer.status = 200

instance (r : Request) (answer : Response) (id : Text) : Decidable (HandsOut r answer id) :=
  decidable_of_iff ((r.method = Endpoint.authorization.method ∧
      r.path = Endpoint.authorization.path) ∧ r.sessionId = some id ∧ answer.status = 200)
    ⟨fun ⟨⟨method, path⟩, named, granted⟩ => ⟨⟨method, path⟩, named, granted⟩,
      fun h => ⟨⟨h.isFor.method, h.isFor.path⟩, h.named, h.granted⟩⟩

end Http

namespace Audit

theorem Recordable.of_asOpened {source : Source} {s s' : Session} (h : Recordable source s)
    (same : s'.asOpened = s.asOpened) : Recordable source s' := by
  -- events tell nothing of codes and tokens
  have hopened : Recordable source s'.asOpened := by
    rw [same]
    exact ⟨h.name, h.component, h.scalar, h.distinct, h.address⟩
  exact ⟨hopened.name, hopened.component, hopened.scalar, hopened.distinct, hopened.address⟩

end Audit

namespace Issuer

open Http Session SessionRequest Audit

/-! ### What every request restores -/

/-- The trail tells of every session what has become of it, where codes were handed out as often
as is said; and what happens to a stored session can be recorded. -/
structure Faithful (i : Issuer) (b : Book) (trail : Trail) (told : List Occurrence)
    (sent : Text → Nat) : Prop where
  tells : trail.Told i.source told
  recordable : ∀ id s, b.store.get? id = some s → Recordable i.source s
  exact : ∀ id, Exact (history id told) (b.store.get? id) (sent id)

/-- A book in which only one stored session may differ. -/
def Overwritten (b b' : Book) (id : Text) (s : Session) : Prop :=
  ∀ other, b'.store.get? other = if id = other then some s else b.store.get? other

section Faithful

variable {i : Issuer} {b b' : Book} {trail trail' : Trail} {told : List Occurrence}
  {sent sent' : Text → Nat} {id : Text} {s s' : Session}

theorem faithful_empty (free : trail ≠ .blocked) (log : trail.log? = none)
    (state : trail.state? = none) : Faithful i .empty trail [] fun _ => 0 where
  tells := Trail.told_empty free log state
  recordable := fun _ _ hs => nomatch hs
  exact := fun _ => .unopened

/-- What happens to one session is recorded, and nothing happens to the others. -/
theorem Faithful.record (h : Faithful i b trail told sent) {type : EventType}
    (overwritten : Overwritten b b' id s') (recordable : Recordable i.source s')
    (recorded : trail'.Told i.source (told ++ [⟨type, id⟩]))
    (exact : Exact (history id told ++ [type]) (some s') (sent' id))
    (others : ∀ other, id ≠ other → sent' other = sent other) :
    Faithful i b' trail' (told ++ [⟨type, id⟩]) sent' where
  tells := recorded
  recordable := by
    intro other t ht
    rw [overwritten] at ht
    split at ht
    · cases ht
      exact recordable
    · exact h.recordable other t ht
  exact := by
    intro other
    rw [history_concat, overwritten]
    by_cases hid : id = other
    · subst hid
      rw [if_pos rfl, if_pos rfl]
      exact exact
    · rw [if_neg hid, if_neg hid, others other hid]
      exact h.exact other

/-- What needs no record is not recorded. -/
theorem Faithful.unrecorded (h : Faithful i b trail told sent) (hs : b.store.get? id = some s)
    (overwritten : Overwritten b b' id s') (same : s'.asOpened = s.asOpened)
    (token : s'.accessToken = s.accessToken) (mark : s'.tokenRevoked = s.tokenRevoked) :
    Faithful i b' trail told sent where
  tells := h.tells
  recordable := by
    intro other t ht
    rw [overwritten] at ht
    split at ht
    · cases ht
      exact (h.recordable id s hs).of_asOpened same
    · exact h.recordable other t ht
  exact := by
    intro other
    rw [overwritten]
    have hexact := h.exact other
    by_cases hid : id = other
    · subst hid
      rw [hs] at hexact
      rw [if_pos rfl]
      exact hexact.unchanged token mark
    · rw [if_neg hid]
      exact hexact

/-- What fails to be recorded leaves no trace. -/
theorem Faithful.publish_error (h : Faithful i b trail told sent) {type : EventType}
    {clientAddress : Option Text} {extensions : List (Text × Json)} {now : Int} {f : Fault}
    (failed : trail.publish i.source type s clientAddress extensions now = (.error f, trail')) :
    Faithful i b trail' told sent :=
  ⟨h.tells.publish_error failed, h.recordable, h.exact⟩

/-- A request that is not answered with a code adds to no count. -/
theorem Faithful.denied (h : Faithful i b trail told sent) {r : Request} {answer : Response}
    (denied : ∀ id, ¬ HandsOut r answer id) :
    Faithful i b trail told fun id => sent id + if HandsOut r answer id then 1 else 0 := by
  have hsame : (fun id => sent id + if HandsOut r answer id then 1 else 0) = sent :=
    funext fun id => by rw [if_neg (denied id), Nat.add_zero]
  rwa [hsame]

end Faithful

/-! ### One request -/

section Request

variable {i : Issuer} {st : State} {r : Request} {told : List Occurrence} {sent : Text → Nat}

/-- The event with which a session starts has distinct keys, because it tells what was read from a
token. -/
theorem hasDistinctKeys_opening {clientAddress : Option Text} {q : SessionRequest}
    (valid : (i.validator.validate st.registry st.now (.bytes r.body) r.clientAddress).result =
      .ok q) (b : Book) :
    (Json.obj (event i.source .start (b.newSession i.plan st.now q).1 clientAddress
      (openingExtensions q) st.now)).HasDistinctKeys := by
  obtain ⟨hstated, hevidence⟩ := Validator.hasDistinctKeys_of_valid valid
  refine hasDistinctKeys_event hstated ?_ _ _ _ _
  unfold openingExtensions
  cases he : q.evidence with
  | none => exact Json.hasDistinctKeys_nil
  | some e => exact .obj (List.nodup_singleton _) (List.forall_mem_singleton.2 (hevidence e he))

/-- A session is stored once its start is recorded. -/
theorem Faithful.opening (kept : st.book.Kept i.plan)
    (h : Faithful i st.book st.trail told sent) (scalar : r.IsScalar) (isFor : r.IsFor .session)
    (unrepeated : Book.Distinct i.plan.generators.sessionId (i.handle r st).2.book.idsDrawn) :
    ∃ told', Faithful i (i.handle r st).2.book (i.handle r st).2.trail told' sent := by
  rw [handle_opening isFor] at unrepeated ⊢
  rw [book_respond] at unrepeated ⊢
  rw [trail_respond]
  have hstep := opening_step i (.bytes r.body) r.clientAddress st
  generalize i.openSession (.bytes r.body) r.clientAddress st = result at unrepeated hstep ⊢
  cases hstep with
  | refused _ _ _ _ => exact ⟨told, h⟩
  | unrecorded q _ f trail failed _ _ =>
    exact ⟨told, h.tells.publish_error failed, h.recordable, h.exact⟩
  | opened q valid trail recorded _ _ =>
    dsimp only at unrepeated ⊢
    rw [(Book.drawn_save _ q _).1] at unrepeated
    have fresh := get?_newSession kept unrepeated st.now q
    have hstated := (Validator.hasDistinctKeys_of_valid valid).1
    have haddress : ∀ a, q.clientAddress = some a → a.IsScalar := by
      intro a ha
      rw [Validator.clientAddress_of_valid valid] at ha
      exact scalar.clientAddress ha
    have hexact := h.exact (st.book.newSession i.plan st.now q).1.id
    rw [fresh] at hexact
    refine ⟨_, h.record ?_ (recordable_of_publish recorded hstated haddress)
      (h.tells.publish_ok (hasDistinctKeys_opening valid st.book) recorded) ?_ fun _ _ => rfl⟩
    · intro other
      rw [Book.store_save, Book.store_newSession, Store.get?_put, fresh]
    · have hsent := hexact.sent
      rw [hexact.eq_nil] at hsent ⊢
      rw [← hsent]
      exact .opened rfl rfl

theorem isWritable_grant {g : AuthorizationRequest.Grant} (code : g.code.IsScalar)
    (redirectUri : g.redirectUri.IsScalar) (state : ∀ t, g.state = some t → t.IsScalar) :
    isWritable g.response = true := by
  have hnames : ∀ name ∈ (["authorizationCode", "value", "redirectionURI", "state"] : List Text),
      name.any CodePoint.isSurrogate = false := by decide
  have hstate : isWritable (.ofText? g.state) = true := by
    cases hs : g.state with
    | none => rfl
    | some t => exact congrArg (!·) (state t hs).any
  simp [AuthorizationRequest.Grant.response, isWritable, haveWritable, hnames, hstate, code.any,
    redirectUri.any]

/-- All that a grant shows was drawn, or came over the wire. -/
theorem isWritable_of_grants (safe : i.generators.UrlSafe) (kept : st.book.Kept i.plan)
    (scalar : r.IsScalar) {id : Text} {s : Session} (hs : st.book.store.get? id = some s)
    {client : Client} {g : AuthorizationRequest.Grant}
    (grants : r.authorization.Grants i.settings.requiredScope st.registry s client g) :
    isWritable (shown g.response) = true := by
  rw [shown_response]
  obtain ⟨-, n, hn⟩ := code_of_grants safe kept hs grants
  refine isWritable_grant ?_ (scalar.parameter grants.redirectUri) fun t ht => ?_
  · rw [hn]
    exact Text.isScalar_of_any (safe.not_surrogate n)
  · exact scalar.parameter (grants.state.symm.trans ht)

/-- A code is handed out where that is recorded, and only there. -/
theorem Faithful.authorization (safe : i.generators.UrlSafe) (kept : st.book.Kept i.plan)
    (h : Faithful i st.book st.trail told sent) (scalar : r.IsScalar)
    (isFor : r.IsFor .authorization) :
    ∃ told', Faithful i (i.handle r st).2.book (i.handle r st).2.trail told' fun id =>
      sent id + if HandsOut r (i.handle r st).1 id then 1 else 0 := by
  rw [handle_authorization isFor]
  have hstep := authorize_step i r.sessionId r.authorization r.clientAddress st
  generalize i.authorize r.sessionId r.authorization r.clientAddress st = result at hstep
  cases hstep with
  | refused f counters =>
    rw [book_respond, trail_respond]
    exact ⟨told, h.denied fun id hands => f.status_ne_ok hands.granted⟩
  | unrecorded s found f trail failed =>
    rw [book_respond, trail_respond]
    exact ⟨told, (h.publish_error failed).denied fun id hands =>
      (Failure.fault f).status_ne_ok hands.granted⟩
  | sent s client g found grants trail recorded counters =>
    obtain ⟨id, named, -, hs, -⟩ := Book.session_ok found
    obtain rfl : s.id = id := kept.keyed id s hs
    rw [respond_writable (isWritable_of_grants safe kept scalar hs grants)]
    have hexact := h.exact s.id
    rw [hs] at hexact
    refine ⟨_, h.record ?_ (h.recordable s.id s hs)
      (h.tells.publish_ok ((h.recordable s.id s hs).hasDistinctKeys _ _ _) recorded) ?_ ?_⟩
    · intro other
      split
      · rename_i hid
        rw [← hid, hs]
      · rfl
    · rw [if_pos ⟨isFor, named, rfl⟩]
      exact hexact.hand
    · intro other hother
      rw [if_neg fun hands => hother (Option.some.inj (named.symm.trans hands.named)),
        Nat.add_zero]

/-- Giving a code is not recorded. -/
theorem Faithful.code (kept : st.book.Kept i.plan) (h : Faithful i st.book st.trail told sent)
    (isFor : r.IsFor .authorizationCode) :
    Faithful i (i.handle r st).2.book (i.handle r st).2.trail told sent := by
  have hstep := code_step i st isFor
  generalize i.handle r st = result at hstep
  cases hstep with
  | refused _ => rwa [book_countFailure, trail_countFailure]
  | given id s _ _ found _ =>
    obtain rfl : s.id = id := kept.keyed id s found
    exact h.unrecorded found (Book.get?_issueCode found) rfl rfl rfl

/-- A replay is recorded as far as that is possible. -/
theorem trail_of_spent (i : Issuer) {body : Payload} {st : State} {q : TokenRequest} {s : Session}
    (accepts : Accepts body st q s) (spent : s.accessToken.isSome)
    (clientAddress : Option Text) :
    (i.exchange body clientAddress st).2.trail =
      (st.trail.publish i.source .codeReplayed s clientAddress [] st.now).2 := by
  have hissue : st.book.issueToken i.plan st.now s =
      (.error (.fault (Session.Fault.replayed s.id).report), (st.book.revokeToken s).2) := by
    unfold Book.issueToken
    rw [if_pos spent]
    rfl
  unfold exchange
  rw [accepts.form]
  dsimp only
  unfold exchangeFor
  rw [accepts.code]
  dsimp only
  rw [accepts.client]
  dsimp only
  unfold issueToken
  rw [hissue]
  show (i.publish .codeReplayed s clientAddress [] _).2.trail = _
  unfold publish
  dsimp only [State.count]
  rcases st.trail.publish i.source .codeReplayed s clientAddress [] st.now with ⟨_ | _, trail⟩
  · rfl
  · rfl

/-- A token is bound, or revoked, and that is recorded. -/
theorem Faithful.token (kept : st.book.Kept i.plan) (h : Faithful i st.book st.trail told sent)
    (scalar : r.IsScalar) (isFor : r.IsFor .token) :
    ∃ told', Faithful i (i.handle r st).2.book (i.handle r st).2.trail told' sent := by
  rw [handle_token isFor, book_respond, trail_respond]
  -- whatever happens to a session that is found can be recorded
  have hrecorded : ∀ {q s}, Accepts (.bytes r.body) st q s → ∀ type, ∃ trail,
      st.trail.publish i.source type s r.clientAddress [] st.now = (.ok (), trail) ∧
        trail.Told i.source (told ++ [⟨type, s.id⟩]) := fun {q s} accepts type =>
    (h.recordable s.id s (accepts.stored kept).1).publish h.tells
      (fun _ ha => scalar.clientAddress ha) type st.now
  by_cases hspent : ∃ q s, Accepts (.bytes r.body) st q s ∧ s.accessToken.isSome
  · obtain ⟨q, s, accepts, spent⟩ := hspent
    have hs := (accepts.stored kept).1
    obtain ⟨trail, hpublish, htold⟩ := hrecorded accepts .codeReplayed
    have hstore := (exchange_of_spent kept accepts spent r.clientAddress).2
    have hexact := h.exact s.id
    rw [hs] at hexact
    have hrevoked : Overwritten st.book (i.exchange (.bytes r.body) r.clientAddress st).2.book s.id
        { s with tokenRevoked := true } := by
      intro other
      rw [hstore, Store.get?_withSession]
    rw [trail_of_spent i accepts spent r.clientAddress, hpublish]
    exact ⟨_, h.record hrevoked ((h.recordable s.id s hs).of_asOpened rfl) htold
      (hexact.replay spent rfl rfl) fun _ _ => rfl⟩
  · have hstep := exchange_step i (.bytes r.body) r.clientAddress st
    generalize i.exchange (.bytes r.body) r.clientAddress st = result at hstep
    cases hstep with
    | refused _ _ _ => exact ⟨told, h⟩
    | replayed q s accepts _ _ spent _ _ =>
      exact absurd ⟨q, s, accepts, accepts.isSome_of_spent kept spent⟩ hspent
    | missing q s accepts unknown =>
      rw [(accepts.stored kept).1] at unknown
      cases unknown
    | unrecorded q s stored accepts _ f trail failed =>
      obtain ⟨_, hpublish, -⟩ := hrecorded accepts .accessTokenIssued
      rw [failed] at hpublish
      cases hpublish
    | issued q s stored accepts binds trail recorded counters =>
      obtain rfl : stored = s := accepts.eq_of_binds kept binds
      obtain ⟨_, hpublish, htold⟩ := hrecorded accepts .accessTokenIssued
      obtain rfl := congrArg Prod.snd (recorded.symm.trans hpublish)
      have hexact := h.exact stored.id
      rw [binds.found] at hexact
      have hbound : Overwritten st.book (i.bound st stored stored) stored.id
          (Book.withToken i.plan st.now (st.book.nextToken i.plan) stored) :=
        fun other => Store.get?_withSession _ _ _ _
      exact ⟨_, h.record hbound ((h.recordable stored.id stored binds.found).of_asOpened rfl) htold
        (hexact.issue binds.free rfl rfl) fun _ _ => rfl⟩

/-- **Every request leaves an exact record.** -/
theorem Faithful.handle (safe : i.generators.UrlSafe) (kept : st.book.Kept i.plan)
    (h : Faithful i st.book st.trail told sent) (scalar : r.IsScalar)
    (unrepeated : Book.Distinct i.plan.generators.sessionId (i.handle r st).2.book.idsDrawn) :
    ∃ told', Faithful i (i.handle r st).2.book (i.handle r st).2.trail told' fun id =>
      sent id + if HandsOut r (i.handle r st).1 id then 1 else 0 := by
  by_cases hauthorization : r.IsFor .authorization
  · exact h.authorization safe kept scalar hauthorization
  suffices hsame : ∃ told', Faithful i (i.handle r st).2.book (i.handle r st).2.trail told' sent by
    obtain ⟨told', h'⟩ := hsame
    exact ⟨told', h'.denied fun _ hands => hauthorization hands.isFor⟩
  rcases isFor_or_notServed i r st with ⟨e, isFor⟩ | ⟨-, hsame⟩
  · cases e with
    | session => exact h.opening kept scalar isFor unrepeated
    | authorization => exact absurd isFor hauthorization
    | authorizationCode => exact ⟨told, h.code kept isFor⟩
    | token => exact h.token kept scalar isFor
    | metrics =>
      rw [handle_of_isFor isFor]
      exact ⟨told, h⟩
  · rw [hsame]
    exact ⟨told, h⟩

end Request

/-! ### A whole run -/

/-- The request in an event, if it is one, with the answer to it. -/
def answered? (i : Issuer) (st : State) : Event → Option (Request × Response)
  | .request r => some (r, (i.handle r st).1)
  | .advance _ | .trail _ | .registry _ => none

/-- The requests among events with the answers to them, one after the other. -/
def dialogue (i : Issuer) (st : State) : List Event → List (Request × Response)
  | [] => []
  | e :: events => (i.answered? st e).toList ++ i.dialogue (i.after st e) events

/-- How often requests were answered with the code of a session. -/
def handedOut (dialogue : List (Request × Response)) (id : Text) : Nat :=
  dialogue.countP fun p => HandsOut p.1 p.2 id

theorem handedOut_cons (r : Request) (answer : Response) (rest : List (Request × Response))
    (id : Text) : handedOut ((r, answer) :: rest) id =
      (if HandsOut r answer id then 1 else 0) + handedOut rest id := by
  unfold handedOut
  rw [List.countP_cons, Nat.add_comm]
  simp only [decide_eq_true_eq]

/-- A run leaves an exact record where nothing else writes to the trail. -/
theorem Faithful.run {i : Issuer} (safe : i.generators.UrlSafe) {st : State}
    (kept : st.book.Kept i.plan) {told : List Occurrence} {sent : Text → Nat}
    (h : Faithful i st.book st.trail told sent) {events : List Event}
    (untouched : ∀ e ∈ events, ∀ found, e ≠ .trail found)
    (scalar : ∀ r, .request r ∈ events → r.IsScalar)
    (unrepeated : Book.Distinct i.plan.generators.sessionId (i.run st events).book.idsDrawn) :
    ∃ told', Faithful i (i.run st events).book (i.run st events).trail told' fun id =>
      sent id + handedOut (i.dialogue st events) id := by
  induction events generalizing st told sent with
  | nil => exact ⟨told, h⟩
  | cons e events ih =>
    have huntouched := fun e' he' => untouched e' (List.mem_cons_of_mem e he')
    have hscalar := fun r hr => scalar r (List.mem_cons_of_mem e hr)
    have hkept := kept_after kept e
    cases e with
    | request r =>
      have hnext := unrepeated.mono (run_draws i (i.handle r st).2 events).ids
      obtain ⟨told₁, h₁⟩ := h.handle safe kept (scalar r List.mem_cons_self) hnext
      obtain ⟨told', h'⟩ := ih hkept h₁ huntouched hscalar unrepeated
      refine ⟨told', ?_⟩
      simp only [Nat.add_assoc, ← handedOut_cons] at h'
      exact h'
    | advance _ => exact ih hkept h huntouched hscalar unrepeated
    | registry _ => exact ih hkept h huntouched hscalar unrepeated
    | trail found => exact absurd rfl (untouched _ List.mem_cons_self found)

/-- **The audit trail is an exact record.** Let an issuer run from empty stores and an empty trail
to which nothing else writes, with requests that come over the wire, and let session ids not repeat.
Then every line of the log tells what happened to a session, and for each session id what the log
tells is exactly what became of it: a start if and only if the session is stored, before all else
and only once; as many codes handed out as requests were answered with one; a token, only once, if
and only if one is bound; and after it a replay, if and only if the token is marked revoked. -/
theorem trail_is_exact_record {i : Issuer} (safe : i.generators.UrlSafe) {st : State}
    (noSessions : st.book = .empty) (free : st.trail ≠ .blocked) (noLog : st.trail.log? = none)
    (noState : st.trail.state? = none) {events : List Event}
    (untouched : ∀ e ∈ events, ∀ found, e ≠ .trail found)
    (scalar : ∀ r, .request r ∈ events → r.IsScalar)
    (unrepeated : Book.Distinct i.plan.generators.sessionId (i.run st events).book.idsDrawn) :
    ∃ told : List Occurrence,
      (i.run st events).trail.occurrences i.source = told.map some ∧
      ∀ id,
        (∀ s, (i.run st events).book.store.get? id = some s → s.id = id) ∧
        Exact (history id told) ((i.run st events).book.store.get? id)
          (handedOut (i.dialogue st events) id) := by
  have kept : st.book.Kept i.plan := by
    rw [noSessions]
    exact Book.Kept.empty i.plan
  have hempty : Faithful i st.book st.trail [] fun _ => 0 := by
    rw [noSessions]
    exact faithful_empty free noLog noState
  obtain ⟨told, h⟩ := hempty.run safe kept untouched scalar unrepeated
  refine ⟨told, h.tells.occurrences, fun id => ⟨(kept_run kept events).keyed id, ?_⟩⟩
  have hexact := h.exact id
  rwa [Nat.zero_add] at hexact

namespace OneClient

/-- The way of the session to its end: its code is fetched, redeemed, and presented again. -/
def journey : List Event :=
  [.request opening, .request asking, .request fetching, .request presenting, .request presenting]

theorem isScalar_journey : ∀ r, .request r ∈ journey → r.IsScalar := by
  intro r hr
  simp only [journey, List.mem_cons, List.not_mem_nil, or_false, Event.request.injEq] at hr
  rcases hr with rfl | rfl | rfl | rfl | rfl
  · exact ⟨List.forall_mem_nil _, List.forall_mem_nil _, nofun⟩
  · exact ⟨List.forall_mem_nil _,
      List.forall_mem_singleton.2 (Text.isScalar_of_any (by decide)), nofun⟩
  · exact ⟨Text.isScalar_of_any (by decide),
      List.forall_mem_singleton.2 (Text.isScalar_of_any (by decide)), nofun⟩
  all_goals
    exact ⟨List.forall_mem_nil _,
      List.forall_mem_singleton.2 (Text.isScalar_of_any (by decide)), nofun⟩

theorem run_journey : issuer.run (.initial 5 registry) journey =
    (issuer.handle presenting (issuer.handle presenting (issuer.handle fetching coded).2).2).2 := by
  unfold journey coded opened
  rw [run_cons, run_cons, run_cons, run_cons, run_cons, run_nil, after_request, after_request,
    after_request]

/-- In the end the token of the session is bound and revoked. -/
theorem stored_journey : (issuer.run (.initial 5 registry) journey).book.store.get? "a" =
    some { redeemedSession with tokenRevoked := true } := by
  obtain ⟨trail, counters, -, hfetching⟩ := handle_fetching
  have hfetched := reachable_coded.handle fetching
  obtain ⟨trail', counters', hspent⟩ :=
    handle_presenting hfetched.kept (congrArg Prod.snd hfetching)
  have accepts : Accepts (.bytes presenting.body)
      (issuer.handle presenting (issuer.handle fetching coded).2).2 exchangeForm
      redeemedSession := by
    have hclient := (accepts_presenting (congrArg Prod.snd hfetching)).client
    rw [hfetching] at hclient
    rw [hspent]
    exact ⟨ofPayload_presenting, rfl,
      check_congr (Book.clientId_withToken ..) (Book.redirectUri_withToken ..) hclient⟩
  have hstore :=
    (exchange_of_spent (hfetched.handle presenting).kept accepts rfl presenting.clientAddress).2
  rw [run_journey, book_handle_token ⟨rfl, rfl⟩, hstore, Store.get?_withSession]
  exact if_pos rfl

theorem handedOut_journey : handedOut (issuer.dialogue (.initial 5 registry) journey) "a" = 1 := by
  obtain ⟨_, _, -, hfetching⟩ := handle_fetching
  have hother : ∀ {r : Request} (e : Endpoint), r.IsFor e → e ≠ .authorization →
      ∀ answer, ¬ HandsOut r answer "a" := fun _ isFor hne _ hands =>
    hne (isFor.unique hands.isFor)
  have hfetched : HandsOut fetching (issuer.handle fetching coded).1 "a" :=
    ⟨⟨rfl, rfl⟩, rfl, by rw [hfetching]⟩
  unfold coded opened at hfetched
  unfold journey
  simp only [dialogue, answered?, Option.toList_some, List.singleton_append, handedOut_cons]
  rw [if_neg (hother .session ⟨rfl, rfl⟩ nofun _),
    if_neg (hother .authorizationCode ⟨rfl, rfl⟩ nofun _), if_pos hfetched,
    if_neg (hother .token ⟨rfl, rfl⟩ nofun _), if_neg (hother .token ⟨rfl, rfl⟩ nofun _)]
  rfl

/-- The log of the session's way tells all of it: the start, the code, the token and the replay. -/
theorem journey_is_recorded :
    issuer.generators.UrlSafe ∧ (State.initial 5 registry).book = .empty ∧
      (State.initial 5 registry).trail = .missing ∧
      (∀ r, .request r ∈ journey → r.IsScalar) ∧
      ∃ told, (issuer.run (.initial 5 registry) journey).trail.occurrences issuer.source =
          told.map some ∧
        (history "a" told).count .start = 1 ∧ (history "a" told).count .authorizationSent = 1 ∧
        (history "a" told).count .accessTokenIssued = 1 ∧
        .codeReplayed ∈ history "a" told := by
  have huntouched : ∀ e ∈ journey, ∀ found, e ≠ .trail found := by simp [journey]
  have hempty : (State.initial 5 registry).book = .empty := rfl
  obtain ⟨told, htold, hexact⟩ := trail_is_exact_record urlSafe hempty nofun rfl rfl huntouched
    isScalar_journey (unrepeated _).ids
  have h := (hexact "a").2
  rw [stored_journey, handedOut_journey] at h
  exact ⟨urlSafe, rfl, rfl, isScalar_journey, told, htold, h.started, h.sent, h.issued,
    h.replayed.2 ⟨_, rfl, rfl⟩⟩

end OneClient

end Issuer

end Issuance
