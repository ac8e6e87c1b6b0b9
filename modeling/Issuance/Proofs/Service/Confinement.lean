import Issuance.Proofs.Entries
import Issuance.Proofs.Service.Opening
import Issuance.Proofs.Session.Refusal

/-!
# Issuance.Proofs.Service.Confinement

**Shared claims reach the identity records and nothing else.** Of a session request, the shared
claims are only ever written, into the record of the session that is opened for it; and no request
reads a record (`handle_withIdentities`). So two runs that differ in the shared claims of one
request for a session give the same answers and leave the same sessions, codes, files and counts,
whatever else happens in them (`shared_claims_are_confined`).
-/

namespace Issuance

/-! ### Claim sets that differ in shared claims only -/

theorem Envelope.Decrypter.not_exhausted_of_ok {d : Decrypter} {service : KeyService}
    {serialized : Text} {payload : Bytes}
    (h : (d.decryptCompact service serialized).result = .ok payload) :
    (d.decryptCompact service serialized).exhausted = false := by
  unfold decryptCompact at h ⊢
  split at h
  · cases h
  · unfold decrypt at h ⊢
    dsimp only at h ⊢
    split at h
    · cases h
    · split at h
      · rename_i hunwrapped
        rw [hunwrapped] at h
        cases h
      · split <;> rfl

namespace SessionRequest

/-- Two claim sets differ in shared claims only, and these are accepted in both or in neither. -/
structure DifferInSharedClaims (claims claims' : SignedToken.ClaimSet) : Prop where
  same : ∀ name : Text, name ≠ "shared_claims" →
    SignedToken.claim claims' name = SignedToken.claim claims name
  accepted : (∃ c, Holds (SignedToken.claim claims' "shared_claims") c) ↔
    ∃ c, Holds (SignedToken.claim claims "shared_claims") c

theorem DifferInSharedClaims.symm {claims claims' : SignedToken.ClaimSet}
    (h : DifferInSharedClaims claims claims') : DifferInSharedClaims claims' claims :=
  ⟨fun name hname => (h.same name hname).symm, h.accepted.symm⟩

/-- If the one makes a request, the other makes that request with its own shared claims. -/
theorem DifferInSharedClaims.ofClaims_eq_ok {claims claims' : SignedToken.ClaimSet}
    (h : DifferInSharedClaims claims claims') {sensitive : List Text} {clientId : Text}
    {c : Client} {clientAddress : Option Text} {q : SessionRequest}
    (hq : ofClaims sensitive clientId c claims clientAddress = .ok q) :
    ∃ sharedClaims,
      ofClaims sensitive clientId c claims' clientAddress = .ok { q with sharedClaims } := by
  obtain ⟨hid, hclaims⟩ := SessionRequest.ofClaims_eq_ok.1 hq
  obtain ⟨sharedClaims, hshared⟩ := h.accepted.2 ⟨_, hclaims.sharedClaims⟩
  have hsame : ∀ name : Text, name ≠ "shared_claims" →
      SignedToken.claim claims name = SignedToken.claim claims' name :=
    fun name hname => (h.same name hname).symm
  refine ⟨sharedClaims, SessionRequest.ofClaims_eq_ok.2 ⟨hid, ?_⟩⟩
  exact {
    sameClient := hclaims.sameClient
    tokenClient := (h.same _ (by decide)).trans hclaims.tokenClient
    registeredRedirect := hclaims.registeredRedirect
    tokenRedirect := (h.same _ (by decide)).trans hclaims.tokenRedirect
    subject := hclaims.subject.trans (hsame _ (by decide))
    state := hclaims.state.trans (hsame _ (by decide))
    expiration := hclaims.expiration.trans (hsame _ (by decide))
    notBefore := hclaims.notBefore.trans (hsame _ (by decide))
    evidence := hclaims.evidence.trans (congrArg EvidenceRequest.ofClaim? (hsame _ (by decide)))
    sharedClaims := hshared
    audience := hclaims.audience.trans (hsame _ (by decide))
    issuer := hclaims.issuer.trans (hsame _ (by decide))
    responseType := hclaims.responseType.trans (hsame _ (by decide))
    persistentSessionId := hclaims.persistentSessionId.trans (hsame _ (by decide))
    clientSessionId := hclaims.clientSessionId.trans (hsame _ (by decide))
    context := hclaims.context.trans (hsame _ (by decide))
    clientAddress := hclaims.clientAddress }

/-- All refusals of a request are answered alike. -/
theorem Fault.IsRefusal.answer {f : Fault} (h : f.IsRefusal) :
    f.failure.status = 400 ∧ f.failure.body = Issuance.Fault.Body.sessionValidation.json none := by
  obtain ⟨report, hreport, hkind⟩ := h
  rw [hreport]
  show report.kind.body.status = 400 ∧ report.kind.body.json _ = _
  rw [hkind]
  exact ⟨rfl, rfl⟩

namespace Validator

/-- The token in a body is verified: the body names a client with a complete registration, and the
payload of its envelope is a token of that client with these claims. -/
def Verifies (v : Validator) (registry : Registry) (now : Int) (body : Payload) (clientId : Text)
    (client : Client) (claims : SignedToken.ClaimSet) : Prop :=
  ∃ document envelope payload token, SessionRequest.document body = .ok document ∧
    outer document = .ok ⟨clientId, envelope⟩ ∧
    (v.decrypter.decryptCompact v.keyService envelope).result = .ok payload ∧
    tokenOf? payload = some token ∧ registry.client clientId = .ok client ∧
    SignedToken.verify now (tokenPolicy client) token = .ok claims

/-- What becomes of such a body is up to its claims. -/
theorem Verifies.validate {v : Validator} {registry : Registry} {now : Int} {body : Payload}
    {clientId : Text} {client : Client} {claims : SignedToken.ClaimSet}
    (h : v.Verifies registry now body clientId client claims) (clientAddress : Option Text) :
    v.validate registry now body clientAddress =
      ⟨ofClaims v.sensitiveFields clientId client claims clientAddress, false⟩ := by
  obtain ⟨document, envelope, payload, token, hdocument, houter, hopened, htoken, hclient,
    hverified⟩ := h
  unfold Validator.validate
  rw [hdocument]
  dsimp only
  unfold validateDocument
  rw [houter]
  dsimp only
  rw [hopened, Envelope.Decrypter.not_exhausted_of_ok hopened]
  dsimp only
  unfold ofPayload
  rw [htoken]
  dsimp only
  rw [hclient]
  dsimp only
  rw [hverified]

end Validator

end SessionRequest

/-! ### Nothing reads the identity records -/

namespace Session

/-- The identity records with one more, if there is one. -/
def keep : Option (Text × IdentityRecord) → Entries Text IdentityRecord →
    Entries Text IdentityRecord
  | none, records => records
  | some (id, record), records => Entries.set id record records

theorem erase_keep {id : Text} {records records' : Entries Text IdentityRecord}
    (h : Entries.erase id records' = Entries.erase id records)
    (kept : Option (Text × IdentityRecord)) :
    Entries.erase id (keep kept records') = Entries.erase id (keep kept records) := by
  cases kept with
  | none => exact h
  | some kept => exact Entries.erase_set_congr h kept.1 kept.2

theorem erase_keep_of_id {id : Text} {kept : Option (Text × IdentityRecord)}
    (h : ∀ entry, kept = some entry → entry.1 = id) (records : Entries Text IdentityRecord) :
    Entries.erase id (keep kept records) = Entries.erase id records := by
  cases kept with
  | none => rfl
  | some entry =>
    rw [← h entry rfl]
    exact Entries.erase_set_self entry.1 entry.2 records

namespace Book

/-- The book with other identity records. -/
def withIdentities (records : Entries Text IdentityRecord) (b : Book) : Book :=
  { b with identities := records }

variable (records : Entries Text IdentityRecord) (b : Book)

@[simp] theorem store_withIdentities : (b.withIdentities records).store = b.store := rfl

@[simp] theorem secretsDrawn_withIdentities :
    (b.withIdentities records).secretsDrawn = b.secretsDrawn := rfl

@[simp] theorem session_withIdentities (now : Int) (id : Option Text) :
    (b.withIdentities records).session now id = b.session now id := rfl

@[simp] theorem sessionOfCode_withIdentities (now : Int) (code : Option Text) :
    (b.withIdentities records).sessionOfCode now code = b.sessionOfCode now code := rfl

theorem rejectReplay_withIdentities {α : Type} (s : Session) :
    (b.withIdentities records).rejectReplay s (α := α) =
      ((b.rejectReplay s).1, (b.rejectReplay s (α := α)).2.withIdentities records) := by
  unfold rejectReplay revokeToken
  rw [store_withIdentities]
  cases b.store.revokeToken? s.id with
  | none => rfl
  | some store => rfl

theorem issueToken_withIdentities (plan : Plan) (now : Int) (s : Session) :
    (b.withIdentities records).issueToken plan now s =
      ((b.issueToken plan now s).1, (b.issueToken plan now s).2.withIdentities records) := by
  unfold issueToken
  rw [store_withIdentities, secretsDrawn_withIdentities]
  split
  · exact rejectReplay_withIdentities records b s
  · dsimp only
    generalize b.store.bindToken? _ _ _ _ = bound
    rcases bound with - | ⟨store, - | -⟩
    · rfl
    · exact rejectReplay_withIdentities records { b with secretsDrawn := b.secretsDrawn + 1 } s
    · rfl

end Book

end Session

namespace Issuer

open Http Session

/-- The id of the session that is opened next. -/
def nextId (i : Issuer) (st : State) : Text := i.plan.generators.sessionId (st.book.idsDrawn + 1)

/-- The state with other identity records. -/
def State.withIdentities (records : Entries Text IdentityRecord) (st : State) : State :=
  { st with book := st.book.withIdentities records }

/-- What an operation gives, with other identity records in the state after it. -/
def withIdentities {α : Type} (records : Entries Text IdentityRecord) (result : α × State) :
    α × State :=
  (result.1, result.2.withIdentities records)

section

variable (i : Issuer) (records : Entries Text IdentityRecord) (st : State)

@[simp] theorem now_withIdentities : (st.withIdentities records).now = st.now := rfl

@[simp] theorem registry_withIdentities :
    (st.withIdentities records).registry = st.registry := rfl

@[simp] theorem book_withIdentities :
    (st.withIdentities records).book = st.book.withIdentities records := rfl

@[simp] theorem trail_withIdentities : (st.withIdentities records).trail = st.trail := rfl

theorem publish_withIdentities (type : Audit.EventType) (s : Session)
    (clientAddress : Option Text) (extensions : List (Text × Json)) :
    i.publish type s clientAddress extensions (st.withIdentities records) =
      withIdentities records (i.publish type s clientAddress extensions st) := by
  unfold publish
  rw [trail_withIdentities, now_withIdentities]
  rcases st.trail.publish i.source type s clientAddress extensions st.now with ⟨_ | _, trail⟩
  · rfl
  · rfl

theorem authorize_withIdentities (sessionId : Option Text) (r : AuthorizationRequest)
    (clientAddress : Option Text) :
    i.authorize sessionId r clientAddress (st.withIdentities records) =
      withIdentities records (i.authorize sessionId r clientAddress st) := by
  unfold authorize
  simp only [now_withIdentities, registry_withIdentities, book_withIdentities,
    Book.session_withIdentities]
  cases st.book.session st.now sessionId with
  | error f => rfl
  | ok s =>
    dsimp only
    cases r.decide i.settings.requiredScope st.registry s with
    | error f => cases f <;> rfl
    | ok grant =>
      dsimp only
      rw [publish_withIdentities]
      rcases i.publish .authorizationSent s clientAddress [] st with ⟨_ | _, after⟩
      · rfl
      · rfl

theorem issueCode_withIdentities (sessionId : Option Text) :
    i.issueCode sessionId (st.withIdentities records) =
      withIdentities records (i.issueCode sessionId st) := by
  unfold issueCode
  simp only [now_withIdentities, book_withIdentities, Book.session_withIdentities]
  cases st.book.session st.now sessionId with
  | error f => rfl
  | ok s => rfl

theorem issueToken_withIdentities (s : Session) (clientAddress : Option Text) :
    i.issueToken s clientAddress (st.withIdentities records) =
      withIdentities records (i.issueToken s clientAddress st) := by
  unfold issueToken
  rw [now_withIdentities, book_withIdentities, Book.issueToken_withIdentities]
  rcases st.book.issueToken i.plan st.now s with ⟨f | token, book⟩
  · dsimp only
    split
    · show (_, (i.publish .codeReplayed s clientAddress [] (State.withIdentities records
        ({ st with book }.count .codeReplayed))).2) = _
      rw [publish_withIdentities]
      rfl
    · rfl
  · have hpublish :=
      publish_withIdentities i records { st with book } .accessTokenIssued s clientAddress []
    dsimp only [State.withIdentities] at hpublish ⊢
    rw [hpublish]
    rcases i.publish .accessTokenIssued s clientAddress [] { st with book } with ⟨_ | _, after⟩
    · rfl
    · rfl

theorem exchange_withIdentities (body : Payload) (clientAddress : Option Text) :
    i.exchange body clientAddress (st.withIdentities records) =
      withIdentities records (i.exchange body clientAddress st) := by
  unfold exchange exchangeFor
  cases TokenRequest.ofPayload body with
  | error f => rfl
  | ok r =>
    simp only [now_withIdentities, registry_withIdentities, book_withIdentities,
      Book.sessionOfCode_withIdentities]
    cases st.book.sessionOfCode st.now (some r.code) with
    | error f => rfl
    | ok s =>
      dsimp only
      cases r.check st.registry st.now s with
      | ok _ => exact issueToken_withIdentities i records st s clientAddress
      | error refusal =>
        dsimp only
        split
        · rfl
        · rfl

theorem validate_withIdentities (body : Payload) (clientAddress : Option Text) :
    i.validate body clientAddress (st.withIdentities records) =
      withIdentities records (i.validate body clientAddress st) := by
  unfold validate
  rw [now_withIdentities, registry_withIdentities]
  dsimp only
  cases (i.validator.validate st.registry st.now body clientAddress).result with
  | error f => rfl
  | ok q => rfl

theorem countFailure_withIdentities (path : Text) :
    countFailure path (st.withIdentities records) =
      (countFailure path st).withIdentities records := by
  unfold countFailure
  cases failureCounter? path <;> rfl

theorem respond_withIdentities (path : Text) (status : Nat)
    (result : Except Failure Json × State) :
    respond path status (withIdentities records result) =
      withIdentities records (respond path status result) := by
  rcases result with ⟨f | v, after⟩
  · exact congrArg (Prod.mk _) (countFailure_withIdentities records after path)
  · show (if isWritable (shown v) = true then _ else _) =
      withIdentities records (if isWritable (shown v) = true then _ else _)
    split
    · rfl
    · exact congrArg (Prod.mk _) (countFailure_withIdentities records after path)

theorem openFor_of_unrecorded {q : SessionRequest} {clientAddress : Option Text} {f : Failure}
    {after : State} (h : i.publish .start (st.book.newSession i.plan st.now q).1 clientAddress
      (openingExtensions q) { st with book := (st.book.newSession i.plan st.now q).2 } =
        (.error f, after)) : i.openFor q clientAddress st = (.error f, after) := by
  unfold openFor
  dsimp only
  rw [h]

theorem openFor_of_recorded {q : SessionRequest} {clientAddress : Option Text} {after : State}
    (h : i.publish .start (st.book.newSession i.plan st.now q).1 clientAddress
      (openingExtensions q) { st with book := (st.book.newSession i.plan st.now q).2 } =
        (.ok (), after)) : i.openFor q clientAddress st =
      (.ok (openingAnswer q (st.book.newSession i.plan st.now q).1),
        { after with book := after.book.save (st.book.newSession i.plan st.now q).1 q }.count
          .sessionCreated) := by
  unfold openFor
  dsimp only
  rw [h]
  rfl

/-- The shared claims of a request do no more than to set the record of the session that is opened
for it. -/
theorem openFor_withIdentities (q : SessionRequest) (clientAddress : Option Text) :
    ∃ kept : Option (Text × IdentityRecord),
      (∀ entry, kept = some entry → entry.1 = i.nextId st) ∧
      ∀ records, i.openFor q clientAddress (st.withIdentities records) =
        withIdentities (keep kept records)
          (i.openFor { q with sharedClaims := none } clientAddress st) := by
  let s := (st.book.newSession i.plan st.now q).1
  let drawn := { st with book := (st.book.newSession i.plan st.now q).2 }
  have hpublish := fun records =>
    publish_withIdentities i records drawn .start s clientAddress (openingExtensions q)
  rcases hrecorded : i.publish .start s clientAddress (openingExtensions q) drawn with
    ⟨f | _, after⟩
  · refine ⟨none, by simp, fun records => ?_⟩
    have hunrecorded := hpublish records
    rw [hrecorded] at hunrecorded
    rw [openFor_of_unrecorded i (st.withIdentities records) hunrecorded,
      openFor_of_unrecorded i st (q := { q with sharedClaims := none }) hrecorded]
    rfl
  · refine ⟨q.sharedClaims.map fun claims => (s.id, ⟨claims.wire, s.expiresAt⟩), ?_,
      fun records => ?_⟩
    · intro entry hentry
      obtain ⟨claims, -, rfl⟩ := Option.map_eq_some_iff.1 hentry
      rfl
    · have hkept := hpublish records
      rw [hrecorded] at hkept
      rw [openFor_of_recorded i (st.withIdentities records) hkept,
        openFor_of_recorded i st (q := { q with sharedClaims := none }) hrecorded]
      dsimp only [withIdentities, Book.save]
      cases q.sharedClaims with
      | none => rfl
      | some claims => rfl

theorem openSession_withIdentities (body : Payload) (clientAddress : Option Text) :
    ∃ kept : Option (Text × IdentityRecord), ∀ records,
      i.openSession body clientAddress (st.withIdentities records) =
        withIdentities (keep kept records) (i.openSession body clientAddress st) := by
  have hvalidate := fun records => validate_withIdentities i records st body clientAddress
  unfold openSession
  rcases hvalid : i.validate body clientAddress st with ⟨f | q, after⟩
  · refine ⟨none, fun records => ?_⟩
    rw [hvalidate, hvalid]
    rfl
  · obtain ⟨kept, -, hkept⟩ := openFor_withIdentities i after q clientAddress
    refine ⟨kept, fun records => ?_⟩
    rw [hvalidate, hvalid]
    show i.openFor q clientAddress (after.withIdentities records) =
      withIdentities (keep kept records)
        (i.openFor q clientAddress (after.withIdentities after.book.identities))
    rw [hkept, hkept]
    rfl

theorem serve_withIdentities (e : Endpoint) (r : Request) :
    ∃ kept : Option (Text × IdentityRecord), ∀ records,
      i.serve e r (st.withIdentities records) =
        withIdentities (keep kept records) (i.serve e r st) := by
  cases e with
  | session =>
    obtain ⟨kept, hkept⟩ := openSession_withIdentities i st (.bytes r.body) r.clientAddress
    refine ⟨kept, fun records => ?_⟩
    unfold serve
    dsimp only
    rw [hkept, respond_withIdentities]
  | authorization =>
    refine ⟨none, fun records => ?_⟩
    unfold serve
    dsimp only
    rw [authorize_withIdentities, respond_withIdentities]
    rfl
  | token =>
    refine ⟨none, fun records => ?_⟩
    unfold serve
    dsimp only
    rw [exchange_withIdentities, respond_withIdentities]
    rfl
  | authorizationCode =>
    refine ⟨none, fun records => ?_⟩
    unfold serve
    dsimp only
    rw [issueCode_withIdentities]
    rcases i.issueCode r.sessionId st with ⟨f | code, after⟩
    · exact congrArg (Prod.mk _) (countFailure_withIdentities records after _)
    · rfl
  | metrics => exact ⟨none, fun records => rfl⟩

/-- **No request reads an identity record.** With other records before it, a request is answered
alike and leaves what it leaves, but for the records; and to these it does no more than to set one
of them. -/
theorem handle_withIdentities (r : Request) :
    ∃ kept : Option (Text × IdentityRecord), ∀ records,
      i.handle r (st.withIdentities records) =
        withIdentities (keep kept records) (i.handle r st) := by
  unfold handle
  cases Endpoint.ofPath? r.path with
  | none => exact ⟨none, fun records => rfl⟩
  | some e =>
    dsimp only
    split
    · exact serve_withIdentities i st e r
    · exact ⟨none, fun records => rfl⟩

end

/-! ### States that differ in one identity record -/

/-- Two states are alike but for the identity record of a session. -/
structure AlikeBut (id : Text) (st st' : State) : Prop where
  now : st'.now = st.now
  registry : st'.registry = st.registry
  store : st'.book.store = st.book.store
  idsDrawn : st'.book.idsDrawn = st.book.idsDrawn
  secretsDrawn : st'.book.secretsDrawn = st.book.secretsDrawn
  trail : st'.trail = st.trail
  counters : st'.counters = st.counters
  identities : Entries.erase id st'.book.identities = Entries.erase id st.book.identities

theorem alikeBut_withIdentities {id : Text} {records records' : Entries Text IdentityRecord}
    (h : Entries.erase id records' = Entries.erase id records) (st : State) :
    AlikeBut id (st.withIdentities records) (st.withIdentities records') :=
  ⟨rfl, rfl, rfl, rfl, rfl, rfl, rfl, h⟩

theorem AlikeBut.refl (id : Text) (st : State) : AlikeBut id st st :=
  ⟨rfl, rfl, rfl, rfl, rfl, rfl, rfl, rfl⟩

theorem AlikeBut.eq_withIdentities {id : Text} {st st' : State} (h : AlikeBut id st st') :
    st' = st.withIdentities st'.book.identities := by
  obtain ⟨now, registry, ⟨store, records, idsDrawn, secretsDrawn⟩, trail, counters⟩ := st
  obtain ⟨now', registry', ⟨store', records', idsDrawn', secretsDrawn'⟩, trail', counters'⟩ := st'
  obtain ⟨rfl, rfl, rfl, rfl, rfl, rfl, rfl, -⟩ := h
  rfl

/-- Two operations give the same and leave such states. -/
def SameBut {α : Type} (id : Text) (result result' : α × State) : Prop :=
  result'.1 = result.1 ∧ AlikeBut id result.2 result'.2

theorem sameBut_withIdentities {α : Type} {id : Text}
    {records records' : Entries Text IdentityRecord}
    (h : Entries.erase id records' = Entries.erase id records) (result : α × State) :
    SameBut id (withIdentities records result) (withIdentities records' result) :=
  ⟨rfl, alikeBut_withIdentities h result.2⟩

/-- A request is answered alike in such states, and leaves such states. -/
theorem AlikeBut.handle {id : Text} {st st' : State} (h : AlikeBut id st st') (i : Issuer)
    (r : Request) : SameBut id (i.handle r st) (i.handle r st') := by
  obtain ⟨kept, hkept⟩ := handle_withIdentities i st r
  have hself : i.handle r st = withIdentities (keep kept st.book.identities) (i.handle r st) :=
    hkept st.book.identities
  rw [h.eq_withIdentities, hkept, hself]
  exact sameBut_withIdentities (erase_keep h.identities kept) (i.handle r st)

theorem AlikeBut.after {id : Text} {st st' : State} (h : AlikeBut id st st') (i : Issuer)
    (e : Event) : AlikeBut id (i.after st e) (i.after st' e) := by
  cases e with
  | request r => exact (h.handle i r).2
  | advance seconds => exact { h with now := congrArg (· + seconds) h.now }
  | trail found => exact { h with trail := rfl }
  | registry registered => exact { h with registry := rfl }

/-! ### Runs -/

theorem AlikeBut.answer? {id : Text} {st st' : State} (h : AlikeBut id st st') (i : Issuer)
    (e : Event) : i.answer? st' e = i.answer? st e := by
  cases e with
  | request r => exact congrArg some (h.handle i r).1
  | advance | trail | registry => rfl

/-- Whatever happens, it is answered alike from such states, and leads to such states. -/
theorem AlikeBut.run {id : Text} {st st' : State} (h : AlikeBut id st st') (i : Issuer)
    (events : List Event) : i.answers st' events = i.answers st events ∧
      AlikeBut id (i.run st events) (i.run st' events) := by
  induction events generalizing st st' with
  | nil => exact ⟨rfl, h⟩
  | cons e events ih =>
    obtain ⟨hanswers, hrun⟩ := ih (h.after i e)
    refine ⟨?_, hrun⟩
    rw [answers, answers, h.answer? i e, hanswers]

/-! ### Requests that differ in shared claims only -/

/-- Two requests for a session are the same but for their bodies; and these are both verified, with
claims that differ in the shared claims only. -/
structure DifferInSharedClaims (i : Issuer) (st : State) (r r' : Request) : Prop where
  isFor : r.IsFor .session
  same : r' = { r with body := r'.body }
  verified : ∃ clientId client claims claims',
    i.validator.Verifies st.registry st.now (.bytes r.body) clientId client claims ∧
    i.validator.Verifies st.registry st.now (.bytes r'.body) clientId client claims' ∧
    SessionRequest.DifferInSharedClaims claims claims'

/-- The shared claims of a request make a difference to its session's record only. -/
theorem openFor_sameBut (i : Issuer) (st : State) (q : SessionRequest)
    (sharedClaims : Option SharedClaims) (clientAddress : Option Text) :
    SameBut (i.nextId st) (i.openFor q clientAddress st)
      (i.openFor { q with sharedClaims } clientAddress st) := by
  obtain ⟨kept, hid, hkept⟩ := openFor_withIdentities i st q clientAddress
  obtain ⟨kept', hid', hkept'⟩ := openFor_withIdentities i st { q with sharedClaims } clientAddress
  have hq : i.openFor q clientAddress st = withIdentities (keep kept st.book.identities)
      (i.openFor { q with sharedClaims := none } clientAddress st) := hkept st.book.identities
  have hq' : i.openFor { q with sharedClaims } clientAddress st =
      withIdentities (keep kept' st.book.identities)
        (i.openFor { q with sharedClaims := none } clientAddress st) := hkept' st.book.identities
  rw [hq, hq']
  refine sameBut_withIdentities ?_ _
  rw [erase_keep_of_id hid, erase_keep_of_id hid']

theorem SameBut.respond {id : Text} {result result' : Except Failure Json × State}
    (h : SameBut id result result') (path : Text) (status : Nat) :
    SameBut id (respond path status result) (respond path status result') := by
  obtain ⟨value, st⟩ := result
  obtain ⟨value', st'⟩ := result'
  obtain ⟨hvalue, halike⟩ := h
  have hself : (value, st) = withIdentities st.book.identities (value, st) := rfl
  have hother : (value', st') = withIdentities st'.book.identities (value, st) :=
    Prod.ext hvalue halike.eq_withIdentities
  rw [hother, hself, respond_withIdentities, respond_withIdentities]
  exact sameBut_withIdentities halike.identities _

theorem openSession_of_verifies {i : Issuer} {st : State} {body : Payload} {clientId : Text}
    {client : Client} {claims : SignedToken.ClaimSet}
    (h : i.validator.Verifies st.registry st.now body clientId client claims)
    (clientAddress : Option Text) : i.openSession body clientAddress st =
      match SessionRequest.ofClaims i.validator.sensitiveFields clientId client claims
        clientAddress with
      | .error f => (.error f.failure, st)
      | .ok q => i.openFor q clientAddress st := by
  unfold openSession validate
  rw [h.validate]
  dsimp only
  cases SessionRequest.ofClaims i.validator.sensitiveFields clientId client claims
    clientAddress with
  | error f => rfl
  | ok q => rfl

/-- Requests that differ in shared claims only are answered alike, and leave states that are alike
but for the record of the session that is opened. -/
theorem DifferInSharedClaims.handle {i : Issuer} {st : State} {r r' : Request}
    (h : DifferInSharedClaims i st r r') :
    SameBut (i.nextId st) (i.handle r st) (i.handle r' st) := by
  obtain ⟨clientId, client, claims, claims', hverifies, hverifies', hdiffer⟩ := h.verified
  have isFor' : r'.IsFor .session := by
    rw [h.same]
    exact ⟨h.isFor.method, h.isFor.path⟩
  have haddress : r'.clientAddress = r.clientAddress := by
    rw [h.same]
    rfl
  have hpath : i.pathInUrl r' = i.pathInUrl r := by
    rw [h.same]
    rfl
  rw [handle_opening h.isFor, handle_opening isFor', haddress, hpath,
    openSession_of_verifies hverifies, openSession_of_verifies hverifies']
  cases hq : SessionRequest.ofClaims i.validator.sensitiveFields clientId client claims
    r.clientAddress with
  | ok q =>
    obtain ⟨sharedClaims, hq'⟩ := hdiffer.ofClaims_eq_ok hq
    rw [hq']
    exact (openFor_sameBut i st q sharedClaims r.clientAddress).respond _ 201
  | error f =>
    cases hq' : SessionRequest.ofClaims i.validator.sensitiveFields clientId client claims'
      r.clientAddress with
    | ok q' =>
      obtain ⟨sharedClaims, hopened⟩ := hdiffer.symm.ofClaims_eq_ok hq'
      rw [hq] at hopened
      cases hopened
    | error f' =>
      -- the two may be refused in different words, but these are not in the answer
      obtain ⟨hstatus, hbody⟩ := (SessionRequest.refused_ofClaims _ _ _ _ _ f hq).answer
      obtain ⟨hstatus', hbody'⟩ := (SessionRequest.refused_ofClaims _ _ _ _ _ f' hq').answer
      have hanswer : Issuer.respond (i.pathInUrl r) 201 (.error f'.failure, st) =
          Issuer.respond (i.pathInUrl r) 201 (.error f.failure, st) := by
        unfold Issuer.respond
        dsimp only
        rw [hstatus, hbody, hstatus', hbody']
      dsimp only
      rw [hanswer]
      exact ⟨rfl, .refl _ _⟩

/-- **Shared claims are confined to the identity record of their session.** Take two runs that start
in the same state and in which the same happens, but that the claims in one request for a session
differ in the shared claims, which are accepted in both or in neither. The answers are the same, and
so is everything that is left behind, but for the identity record of the session that the request
opens. -/
theorem shared_claims_are_confined (i : Issuer) (st : State) (earlier later : List Event)
    {r r' : Request} (differ : DifferInSharedClaims i (i.run st earlier) r r') :
    i.answers st (earlier ++ .request r' :: later) = i.answers st (earlier ++ .request r :: later) ∧
      AlikeBut (i.nextId (i.run st earlier)) (i.run st (earlier ++ .request r :: later))
        (i.run st (earlier ++ .request r' :: later)) := by
  obtain ⟨hanswer, halike⟩ := differ.handle
  obtain ⟨hanswers, hrun⟩ := halike.run i later
  rw [answers_append, answers_append, run_append, run_append]
  refine ⟨?_, hrun⟩
  show _ ++ ((i.handle r' _).1 :: i.answers (i.handle r' _).2 later) =
    _ ++ ((i.handle r _).1 :: i.answers (i.handle r _).2 later)
  rw [hanswer, hanswers]

namespace OneClient

/-- What the client signs and seals is verified. -/
theorem verifies_sealed {payload : Bytes} {claims : SignedToken.ClaimSet}
    (hclaims : Json.ofBytes payload = .ok (.obj claims))
    (hcheck : SignedToken.checkClaims 5 (SessionRequest.tokenPolicy client) claims = .ok ()) :
    issuer.validator.Verifies registry 5
      (.bytes (Bytes.ofAscii (SessionRequest.bodyText "c" (sealed payload)))) "c" client
      claims := by
  obtain ⟨hdocument, houter⟩ := SessionRequest.outer_bodyText isWord_clientId
    (SessionRequest.isWord_encrypt _ _ _ _ _ : SessionRequest.IsWord (sealed payload))
  exact ⟨_, sealed payload, _, signed payload, hdocument, houter, decryptCompact_sealed payload,
    SignedToken.tokenOf?_compact _ _ _, client_registry,
    verify_signed rfl rfl (by decide) hclaims hcheck⟩

/-- The claims in the client's request, with an email address that it knows. -/
def addressedClaims : SignedToken.ClaimSet :=
  Entries.set (Text.ofString "shared_claims") (.obj [("emailAddress", .str "p")]) requestClaims

def addressedPayload : Bytes := Bytes.ofAscii
  ("\x7b\"iss\":\"c\",\"aud\":\"a\",\"sub\":\"s\",\"state\":\"t\"," ++
    "\"client_id\":\"c\",\"redirect_uri\":\"r\",\"exp\":9,\"nbf\":1," ++
    "\"shared_claims\":\x7b\"emailAddress\":\"p\"\x7d\x7d" : Text)

/-- The request that opens the session, with this address in it. -/
def addressedOpening : Request :=
  { opening with body := Bytes.ofAscii (SessionRequest.bodyText "c" (sealed addressedPayload)) }

theorem differInSharedClaims_addressed :
    SessionRequest.DifferInSharedClaims requestClaims addressedClaims where
  same name hname := by
    unfold SignedToken.claim
    show (Entries.get? name addressedClaims).getD .null =
      (Entries.get? name requestClaims).getD .null
    unfold addressedClaims
    rw [Entries.get?_set, if_neg (Ne.symm hname)]
  accepted := by
    have hread : SharedClaims.read? (.obj [("emailAddress", .str "p")]) =
        some ⟨[], [], [], some "p", []⟩ := by decide +kernel
    have hstated : SignedToken.claim addressedClaims "shared_claims" ≠ .null := by decide
    exact iff_of_true ⟨_, .present hstated hread⟩ ⟨none, .absent⟩

/-- The run in which the client knows no address, and the one in which it knows one. -/
theorem address_is_confined :
    DifferInSharedClaims issuer (.initial 5 registry) opening addressedOpening ∧
      issuer.answers (.initial 5 registry) [.request addressedOpening, .request asking] =
        issuer.answers (.initial 5 registry) [.request opening, .request asking] ∧
      AlikeBut "a" (issuer.run (.initial 5 registry) [.request opening, .request asking])
        (issuer.run (.initial 5 registry) [.request addressedOpening, .request asking]) := by
  have hpayload : Json.ofBytes addressedPayload = .ok (.obj addressedClaims) :=
    Json.ofBytes_ascii (by decide +kernel) (by decide +kernel) (by decide +kernel)
  have differ : DifferInSharedClaims issuer (.initial 5 registry) opening addressedOpening := {
    isFor := ⟨rfl, rfl⟩
    same := rfl
    verified := ⟨"c", client, requestClaims, addressedClaims,
      verifies_sealed ofBytes_requestPayload (eq_ok_of_toOption (by decide +kernel)),
      verifies_sealed hpayload (eq_ok_of_toOption (by decide +kernel)),
      differInSharedClaims_addressed⟩ }
  exact ⟨differ, shared_claims_are_confined issuer (.initial 5 registry) [] [.request asking]
    differ⟩

end OneClient

end Issuer

end Issuance
