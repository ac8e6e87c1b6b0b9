import Issuance.Proofs.Entries
import Issuance.Proofs.Service.Replay
import Issuance.Proofs.Service.Url

/-!
# Issuance.Proofs.Service.Opening

**Opening a session is all or nothing**, but for two gaps. A request for a session is validated,
recorded and only then stored and counted, so whatever fails up to there leaves no session behind.
Only then is the answer written, and it repeats the state that the client stated, which may be any
JSON value: one that no answer can hold, such as a number that is not one, fails a request whose
session is open by then (`unwritable_state_opens_session`). And a failure is counted by the path of
the request's URL, which a Host header that is no host leads elsewhere. There is no other way
(`opening_all_or_nothing_iff`).
-/

namespace Issuance

theorem Failure.status_ne_created (f : Failure) : f.status ≠ 201 := by
  intro h
  have hmem := f.status_mem
  rw [h] at hmem
  exact absurd hmem (by decide)

namespace Issuer

open Http Session

/-! ### What a request for a session does -/

/-- A request for `/session` is answered as its opening goes. -/
theorem handle_opening {i : Issuer} {r : Request} {st : State} (isFor : r.IsFor .session) :
    i.handle r st =
      respond (i.pathInUrl r) 201 (i.openSession (.bytes r.body) r.clientAddress st) :=
  handle_of_isFor isFor

/-- A valid request whose record is taken opens its session. -/
theorem openSession_of_recorded {i : Issuer} {body : Payload} {clientAddress : Option Text}
    (st : State) {q : SessionRequest} {trail : Audit.Trail}
    (valid : (i.validator.validate st.registry st.now body clientAddress).result = .ok q)
    (recorded : st.trail.publish i.source .start (st.book.newSession i.plan st.now q).1
      clientAddress (openingExtensions q) st.now = (.ok (), trail)) :
    ∃ counters : Counters,
      sessionCounts counters =
        (st.counters.count .sessionCreated + 1, st.counters.count .sessionFailed) ∧
      i.openSession body clientAddress st =
        (.ok (openingAnswer q (st.book.newSession i.plan st.now q).1),
          { st with
            book := (st.book.newSession i.plan st.now q).2.save
              (st.book.newSession i.plan st.now q).1 q
            trail
            counters }) := by
  have hstep := opening_step i body clientAddress st
  generalize i.openSession body clientAddress st = result at hstep
  cases hstep with
  | refused _ _ _ invalid => exact absurd valid (invalid q)
  | unrecorded q' valid' _ _ failed =>
    cases valid.symm.trans valid'
    cases recorded.symm.trans failed
  | opened q' valid' trail' recorded' counters counted =>
    cases valid.symm.trans valid'
    cases recorded.symm.trans recorded'
    exact ⟨counters, counted, rfl⟩

/-! ### Identity records -/

/-- Every identity record is kept under an id that has been drawn. -/
def IdentitiesDrawn (plan : Plan) (b : Book) : Prop :=
  ∀ id record, Entries.get? id b.identities = some record →
    Book.Drawn plan.generators.sessionId b.idsDrawn id

theorem identities_save (s : Session) (q : SessionRequest) (b : Book) :
    (b.save s q).identities = match q.sharedClaims with
      | none => b.identities
      | some claims => Entries.set s.id ⟨claims.wire, s.expiresAt⟩ b.identities := by
  unfold Book.save
  cases q.sharedClaims <;> rfl

theorem identities_revokeToken (s : Session) (b : Book) :
    (b.revokeToken s).2.identities = b.identities := by
  rcases Book.store_revokeToken s b with ⟨-, h⟩ | ⟨stored, -, h⟩ <;> rw [h]

theorem ExchangeStep.identities {i : Issuer} {body : Payload} {clientAddress : Option Text}
    {st : State} {result : Except Failure Json × State}
    (step : ExchangeStep i body clientAddress st result) :
    result.2.book.identities = st.book.identities := by
  cases step with
  | replayed _ s _ drawn _ _ _ _ =>
    exact identities_revokeToken s _
  | _ => rfl

theorem BookStep.identitiesDrawn {i : Issuer} {r : Request} {st : State} {answer : Response}
    {b : Book} (h : IdentitiesDrawn i.plan st.book) (step : BookStep i r st answer b) :
    IdentitiesDrawn i.plan b := by
  -- ids stay drawn, so only a new record is in question
  intro id record hrecord
  have hkept : Entries.get? id st.book.identities = some record →
      Book.Drawn i.plan.generators.sessionId b.idsDrawn id := fun hrecord =>
    (h id record hrecord).mono step.goesOn.ids
  cases step with
  | idle _ _ => exact hkept hrecord
  | drawn _ _ _ => exact hkept hrecord
  | code _ _ _ _ _ => exact hkept hrecord
  | exchanged _ _ _ step =>
    rw [step.identities] at hrecord
    exact hkept hrecord
  | opened _ _ q =>
    rw [identities_save] at hrecord
    split at hrecord
    · exact hkept hrecord
    · rw [Entries.get?_set] at hrecord
      split at hrecord
      · rename_i heq
        rw [← heq, (Book.drawn_save _ q _).1]
        exact Book.Drawn.next _ _
      · exact hkept hrecord

theorem Reachable.identitiesDrawn {i : Issuer} {st : State} (h : Reachable i st) :
    IdentitiesDrawn i.plan st.book := by
  induction h with
  | initial now registry =>
    intro id record hrecord
    cases hrecord
  | @after st e _ ih =>
    cases e with
    | request r => exact (handle_step i r st).identitiesDrawn ih
    | advance _ => exact ih
    | trail _ => exact ih
    | registry _ => exact ih

/-! ### All or nothing -/

/-- A request for a session was granted: one session was opened for it, recorded, stored, and
counted, and its shared claims are kept if it has any. -/
structure Granted (i : Issuer) (r : Request) (st : State) (answer : Response) (st' : State)
    (q : SessionRequest) (s : Session) : Prop where
  status : answer.status = 201
  valid : (i.validator.validate st.registry st.now (.bytes r.body) r.clientAddress).result = .ok q
  session : s = (st.book.newSession i.plan st.now q).1
  fresh : st.book.store.get? s.id = none
  sessions : st'.book.store.sessions = st.book.store.sessions ++ [(s.id, s)]
  codes : st'.book.store.codes = st.book.store.codes
  recorded : ∃ hash, st.trail.Records st'.trail
    (Audit.event i.source .start s r.clientAddress (openingExtensions q) st.now) hash
  counted : sessionCounts st'.counters =
    (st.counters.count .sessionCreated + 1, st.counters.count .sessionFailed)
  unknown : Entries.get? s.id st.book.identities = none
  identities : st'.book.identities = st.book.identities ++ match q.sharedClaims with
    | none => []
    | some claims => [(s.id, ⟨claims.wire, s.expiresAt⟩)]

/-- A request for a session came to nothing but a count. -/
structure CameToNothing (st : State) (answer : Response) (st' : State) : Prop where
  status : answer.status ≠ 201
  store : st'.book.store = st.book.store
  identities : st'.book.identities = st.book.identities
  counted : sessionCounts st'.counters =
    (st.counters.count .sessionCreated, st.counters.count .sessionFailed + 1)

/-- A request for a session is granted, or it comes to nothing. -/
def AllOrNothing (i : Issuer) (r : Request) (st : State) : Prop :=
  (∃ q s, Granted i r st (i.handle r st).1 (i.handle r st).2 q s) ∨
    CameToNothing st (i.handle r st).1 (i.handle r st).2

/-- A failure is counted beside what was counted before, if its path is that of the sessions. -/
theorem sessionCounts_countFailure (path : Text) (st : State) :
    sessionCounts (countFailure path st).counters =
      (st.counters.count .sessionCreated,
        st.counters.count .sessionFailed + if path = Endpoint.session.path then 1 else 0) := by
  have hcreated : failureCounter? path ≠ some .sessionCreated := fun h =>
    absurd (mem_failureCounters h) (by decide)
  have hfailed : failureCounter? path = some .sessionFailed ↔ path = Endpoint.session.path :=
    failureCounter?_eq_some_iff rfl
  simp only [sessionCounts, count_countFailure, if_neg hcreated, hfailed, Nat.add_zero]

/-- An opening that fails before it has stored anything comes to nothing, if it is counted. -/
theorem allOrNothing_error_iff {i : Issuer} {r : Request} {st st' : State} {f : Failure}
    (path : Text) (hstore : st'.book.store = st.book.store)
    (hidentities : st'.book.identities = st.book.identities)
    (hcounted : sessionCounts st'.counters = sessionCounts st.counters) :
    ((∃ q s, Granted i r st (respond path 201 (.error f, st')).1
        (respond path 201 (.error f, st')).2 q s) ∨
      CameToNothing st (respond path 201 (.error f, st')).1
        (respond path 201 (.error f, st')).2) ↔ path = Endpoint.session.path := by
  have hafter : sessionCounts (respond path 201 (.error f, st')).2.counters =
      (st.counters.count .sessionCreated,
        st.counters.count .sessionFailed + if path = Endpoint.session.path then 1 else 0) := by
    simp only [sessionCounts, Prod.mk.injEq] at hcounted
    show sessionCounts (countFailure path st').counters = _
    rw [sessionCounts_countFailure, hcounted.1, hcounted.2]
  constructor
  · rintro (⟨_, _, hgranted⟩ | hnothing)
    · exact absurd hgranted.status f.status_ne_created
    · have hcount := hafter.symm.trans hnothing.counted
      by_contra hpath
      simp [hpath] at hcount
  · intro hpath
    refine Or.inr ⟨f.status_ne_created, ?_, ?_, ?_⟩
    · rw [book_respond, hstore]
    · rw [book_respond, hidentities]
    · rw [hafter, if_pos hpath]

/-- A fresh session has an id that no stored session has. -/
theorem get?_newSession {plan : Plan} {b : Book} (kept : b.Kept plan)
    (unrepeated : Book.Distinct plan.generators.sessionId (b.idsDrawn + 1)) (now : Int)
    (q : SessionRequest) : b.store.get? (b.newSession plan now q).1.id = none := by
  cases hs : b.store.get? (b.newSession plan now q).1.id with
  | none => rfl
  | some s => exact absurd rfl (unrepeated.next_ne (kept.ids _ s hs))

/-- A session is stored under an id that no session has, and that no record is kept under. -/
theorem fresh_newSession {i : Issuer} {st : State} (reachable : Reachable i st)
    {q : SessionRequest} (unrepeated : Book.Distinct i.plan.generators.sessionId
      (st.book.idsDrawn + 1)) :
    st.book.store.get? (st.book.newSession i.plan st.now q).1.id = none ∧
      Entries.get? (st.book.newSession i.plan st.now q).1.id st.book.identities = none := by
  refine ⟨get?_newSession reachable.kept unrepeated st.now q, ?_⟩
  cases hr : Entries.get? (st.book.newSession i.plan st.now q).1.id st.book.identities with
  | none => rfl
  | some record => exact absurd rfl (unrepeated.next_ne (reachable.identitiesDrawn _ record hr))

/-- A fresh session is stored after the others, and changes no code. -/
theorem put_newSession {plan : Plan} {now : Int} {q : SessionRequest} {b : Book}
    (fresh : b.store.get? (b.newSession plan now q).1.id = none) :
    b.store.put (b.newSession plan now q).1 =
      ⟨b.store.sessions ++ [((b.newSession plan now q).1.id, (b.newSession plan now q).1)],
        b.store.codes⟩ := by
  unfold Store.put
  rw [fresh]
  dsimp only
  rw [Entries.set_of_get?_none fresh]
  rfl

theorem identities_save_newSession {plan : Plan} {now : Int} {q : SessionRequest} {b : Book}
    (unknown : Entries.get? (b.newSession plan now q).1.id b.identities = none) :
    ((b.newSession plan now q).2.save (b.newSession plan now q).1 q).identities =
      b.identities ++ match q.sharedClaims with
        | none => []
        | some claims => [((b.newSession plan now q).1.id,
            ⟨claims.wire, (b.newSession plan now q).1.expiresAt⟩)] := by
  rw [identities_save]
  cases q.sharedClaims with
  | none => exact (List.append_nil _).symm
  | some claims => exact Entries.set_of_get?_none unknown _

/-- **When opening a session is all or nothing.** As long as ids do not repeat, a request for a
session is granted or comes to nothing if and only if its answer can be written where it gets
as far as a valid request and its record, and its URL has the path of the sessions where it is not
granted. -/
theorem opening_all_or_nothing_iff {i : Issuer} {st : State} (reachable : Reachable i st)
    {r : Request} (isFor : r.IsFor .session)
    (unrepeated : (i.handle r st).2.book.Unrepeated i.plan) :
    AllOrNothing i r st ↔
      (∀ q, (i.validator.validate st.registry st.now (.bytes r.body) r.clientAddress).result =
          .ok q →
        (st.trail.publish i.source .start (st.book.newSession i.plan st.now q).1 r.clientAddress
          (openingExtensions q) st.now).1 = .ok () →
        isWritable (shown (openingAnswer q (st.book.newSession i.plan st.now q).1)) = true) ∧
      ((i.handle r st).1.status ≠ 201 → i.pathInUrl r = Endpoint.session.path) := by
  unfold AllOrNothing
  rw [handle_opening isFor] at unrepeated ⊢
  rw [book_respond] at unrepeated
  have hstep := opening_step i (.bytes r.body) r.clientAddress st
  generalize i.openSession (.bytes r.body) r.clientAddress st = result at *
  cases hstep with
  | refused f counters counted invalid =>
    refine Iff.trans (allOrNothing_error_iff _ ?_ ?_ counted) ?_
    · rfl
    · rfl
    constructor
    · exact fun hpath => ⟨fun q valid => absurd valid (invalid q), fun _ => hpath⟩
    · exact fun h => h.2 f.status_ne_created
  | unrecorded q valid f trail failed counters counted =>
    refine Iff.trans (allOrNothing_error_iff _ ?_ ?_ counted) ?_
    · rfl
    · rfl
    constructor
    · refine fun hpath => ⟨fun q' valid' recorded => ?_, fun _ => hpath⟩
      rw [← Except.ok.inj (valid.symm.trans valid'), failed] at recorded
      cases recorded
    · exact fun h => h.2 (Failure.fault f).status_ne_created
  | opened q valid trail recorded counters counted =>
    constructor
    · intro hall
      have hwritable : isWritable (shown (openingAnswer q (st.book.newSession i.plan st.now q).1)) =
          true := by
        by_contra hunwritable
        rw [Bool.not_eq_true] at hunwritable
        -- the session is counted as opened, but the answer does not say so
        rcases hall with ⟨_, _, hgranted⟩ | hnothing
        · have hstatus := status_respond_unwritable hunwritable (i.pathInUrl r) 201
          exact absurd (hgranted.status.symm.trans (hstatus _)) (by decide)
        · have hcounted := hnothing.counted
          unfold respond at hcounted
          dsimp only at hcounted
          rw [hunwritable, if_neg Bool.false_ne_true, sessionCounts_countFailure] at hcounted
          simp only [sessionCounts, Prod.mk.injEq] at counted hcounted
          omega
      refine ⟨fun q' valid' _ => ?_, fun hstatus => ?_⟩
      · rwa [← Except.ok.inj (valid.symm.trans valid')]
      · rw [respond_writable hwritable] at hstatus
        exact absurd rfl hstatus
    · rintro ⟨hwritable, -⟩
      left
      have hids := unrepeated.ids
      dsimp only at hids
      rw [(Book.drawn_save _ q _).1] at hids
      obtain ⟨fresh, unknown⟩ := fresh_newSession (q := q) reachable hids
      have hput := put_newSession fresh
      rw [respond_writable (hwritable q valid (by rw [recorded]))]
      exact ⟨q, (st.book.newSession i.plan st.now q).1, {
        status := rfl
        valid
        session := rfl
        fresh
        sessions := by rw [Book.store_save, Book.store_newSession, hput]
        codes := by rw [Book.store_save, Book.store_newSession, hput]
        recorded := Audit.Trail.publish_eq_ok recorded
        counted
        unknown
        identities := identities_save_newSession unknown }⟩

namespace OneClient

/-- The client's request is granted from a fresh issuer, since its state is a text. -/
theorem opening_is_all_or_nothing :
    Reachable issuer (.initial 5 registry) ∧ opening.IsFor .session ∧
      (issuer.handle opening (.initial 5 registry)).2.book.Unrepeated issuer.plan ∧
      AllOrNothing issuer opening (.initial 5 registry) := by
  have reachable : Reachable issuer (.initial 5 registry) := .initial 5 registry
  refine ⟨reachable, ⟨rfl, rfl⟩, unrepeated _, ?_⟩
  refine (opening_all_or_nothing_iff reachable ⟨rfl, rfl⟩ (unrepeated _)).2 ⟨?_, fun _ => rfl⟩
  intro q valid _
  rw [← Except.ok.inj ((validate_opening rfl rfl).symm.trans valid)]
  decide

/-- The claims of a request whose state is a number that is not one. -/
def nanClaims : SignedToken.ClaimSet :=
  [("iss", .str "c"), ("aud", .str "a"), ("sub", .str "s"), ("state", .float .nan),
    ("client_id", .str "c"), ("redirect_uri", .str "r"), ("exp", .int 9), ("nbf", .int 1)]

def nanPayload : Bytes := Bytes.ofAscii
  ("\x7b\"iss\":\"c\",\"aud\":\"a\",\"sub\":\"s\",\"state\":NaN," ++
    "\"client_id\":\"c\",\"redirect_uri\":\"r\",\"exp\":9,\"nbf\":1\x7d" : Text)

/-- The request with that state. -/
def nanOpening : Request :=
  ⟨"POST", "/session", [], [],
    Bytes.ofAscii (SessionRequest.bodyText "c" (sealed nanPayload)), none⟩

/-- What its claims ask for. -/
def nanRequest : SessionRequest := { sessionRequest with state := .float .nan }

/-- The session that is opened for it, and the book in which it is stored. -/
def nanSession : Session := (Book.empty.newSession issuer.plan 5 nanRequest).1
def nanBook : Book :=
  (Book.empty.newSession issuer.plan 5 nanRequest).2.save nanSession nanRequest

theorem validate_nan :
    (issuer.validator.validate registry 5 (.bytes nanOpening.body)
      nanOpening.clientAddress).result = .ok nanRequest := by
  have hpayload : Json.ofBytes nanPayload = .ok (.obj nanClaims) :=
    Json.ofBytes_ascii (by decide +kernel) (by decide +kernel) (by decide +kernel)
  exact (validate_signed (State.initial 5 registry) rfl rfl hpayload
    (eq_ok_of_toOption (by decide +kernel))).trans (eq_ok_of_toOption (by decide +kernel))

/-- **A state that no answer can hold leaves a session behind.** The request is answered with 500
and counted as refused, but its session is stored and counted as opened. -/
theorem unwritable_state_opens_session :
    Reachable issuer (.initial 5 registry) ∧ nanOpening.IsFor .session ∧
      (issuer.handle nanOpening (.initial 5 registry)).1.status = 500 ∧
      ((issuer.handle nanOpening (.initial 5 registry)).2.book.store.get? "a").isSome ∧
      sessionCounts (issuer.handle nanOpening (.initial 5 registry)).2.counters = (1, 1) ∧
      ¬ AllOrNothing issuer nanOpening (.initial 5 registry) := by
  have reachable : Reachable issuer (.initial 5 registry) := .initial 5 registry
  have isFor : nanOpening.IsFor .session := ⟨rfl, rfl⟩
  obtain ⟨trail, hrecorded, -⟩ :=
    Audit.Trail.publish_of_appendable Audit.Trail.appendable_missing
      (isWritable_event (s := nanSession) rfl rfl rfl rfl rfl .start 5)
  obtain ⟨counters, hcounted, hopening⟩ := openSession_of_recorded (i := issuer)
    (.initial 5 registry) validate_nan hrecorded
  have hopened : issuer.openSession (.bytes nanOpening.body) nanOpening.clientAddress
      (.initial 5 registry) = (.ok (openingAnswer nanRequest nanSession),
        ⟨5, registry, nanBook, trail, counters⟩) := hopening
  have hunwritable : isWritable (shown (openingAnswer nanRequest nanSession)) =
      false := by decide
  refine ⟨reachable, isFor, ?_, ?_, ?_, ?_⟩
  · rw [handle_opening isFor, hopened, status_respond_unwritable hunwritable]
  · rw [handle_opening isFor, hopened, book_respond]
    rfl
  · rw [handle_opening isFor, hopened]
    unfold respond
    dsimp only
    rw [hunwritable, if_neg Bool.false_ne_true, sessionCounts_countFailure]
    simp only [sessionCounts, Prod.mk.injEq] at hcounted
    rw [hcounted.1, hcounted.2]
    rfl
  · intro hall
    have hwritable : isWritable (shown (openingAnswer nanRequest nanSession)) = true :=
      ((opening_all_or_nothing_iff reachable isFor (unrepeated _)).1 hall).1 nanRequest
        validate_nan (congrArg Prod.fst hrecorded)
    rw [hunwritable] at hwritable
    cases hwritable

end OneClient

end Issuer

end Issuance
