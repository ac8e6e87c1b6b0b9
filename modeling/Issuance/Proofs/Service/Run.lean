import Issuance.Proofs.Service.Inversion

/-!
# Issuance.Proofs.Service.Run

**Runs of the issuer over HTTP.** An `Event` is a request, a passing of time, or something done to
what lies outside the issuer: the files of the trail and the registrations. `Reachable` are the
states that events lead to from a fresh issuer.

`handle_step` says once what a request can do to the book: nothing, draw an id for a session that
is not stored, open a session, give a session a code, or whatever an exchange does. From it the
invariant `Kept` follows, which every reachable book has: sessions are stored under their own ids,
the index is sound, and every id and code in the book has been drawn.
-/

namespace Issuance

/-- The statuses of failures. What is not served at all is answered with others. -/
def Failure.statuses : List Nat := [400, 403, 500]

theorem Fault.Body.status_mem (b : Fault.Body) : b.status ∈ Failure.statuses := by
  cases b <;> decide

theorem Failure.status_mem (f : Failure) : f.status ∈ Failure.statuses := by
  cases f with
  | internal => decide
  | fault f => exact Fault.Body.status_mem f.kind.body

/-- No failure is answered as a success. -/
theorem Failure.status_ne_ok (f : Failure) : f.status ≠ 200 := by
  intro h
  have hmem := f.status_mem
  rw [h] at hmem
  exact absurd hmem (by decide)

namespace Http

/-- A request for an endpoint: its method and its path are the endpoint's. -/
structure Request.IsFor (r : Request) (e : Endpoint) : Prop where
  method : r.method = e.method
  path : r.path = e.path

theorem Endpoint.ofPath?_path (e : Endpoint) : Endpoint.ofPath? e.path = some e := by
  cases e <;> decide

theorem Endpoint.path_of_ofPath? {path : Text} {e : Endpoint} (h : Endpoint.ofPath? path = some e) :
    path = e.path := by
  have hfound := List.find?_some h
  exact (of_decide_eq_true hfound).symm

theorem Endpoint.path_inj {e e' : Endpoint} (h : e.path = e'.path) : e = e' := by
  have hfound := Endpoint.ofPath?_path e
  rw [h, Endpoint.ofPath?_path] at hfound
  exact (Option.some.inj hfound).symm

theorem Request.IsFor.unique {r : Request} {e e' : Endpoint} (h : r.IsFor e) (h' : r.IsFor e') :
    e = e' :=
  Endpoint.path_inj (h.path.symm.trans h'.path)

end Http

namespace Issuer

open Http Session

theorem handle_of_isFor {i : Issuer} {r : Request} {e : Endpoint} {st : State} (h : r.IsFor e) :
    i.handle r st = i.serve e r st := by
  unfold handle
  rw [h.path, Endpoint.ofPath?_path]
  dsimp only
  rw [if_pos h.method]

/-- A request is for an endpoint, or it is answered with 404 or 405 and changes nothing. -/
theorem isFor_or_notServed (i : Issuer) (r : Request) (st : State) :
    (∃ e, r.IsFor e) ∨ ((i.handle r st).1.status ∈ [404, 405] ∧ (i.handle r st).2 = st) := by
  unfold handle
  cases hp : Endpoint.ofPath? r.path with
  | none => exact Or.inr ⟨(by decide : (404 : Nat) ∈ [404, 405]), rfl⟩
  | some e =>
    dsimp only
    by_cases hm : r.method = e.method
    · exact Or.inl ⟨e, hm, Endpoint.path_of_ofPath? hp⟩
    · rw [if_neg hm]
      exact Or.inr ⟨(by decide : (405 : Nat) ∈ [404, 405]), rfl⟩

/-! ### Answers -/

/-- Counting a failure changes the counters only. -/
theorem countFailure_state (path : Text) (st : State) :
    ∃ counters, countFailure path st = { st with counters } := by
  unfold countFailure
  cases failureCounter? path with
  | none => exact ⟨st.counters, rfl⟩
  | some c => exact ⟨st.counters.bump c, rfl⟩

/-- Answering changes the counters only. -/
theorem respond_state (path : Text) (status : Nat) (result : Except Failure Json × State) :
    ∃ counters, (respond path status result).2 = { result.2 with counters } := by
  rcases result with ⟨f | v, st⟩
  · exact countFailure_state path st
  · unfold respond
    dsimp only
    split
    · exact ⟨st.counters, rfl⟩
    · exact countFailure_state path st

@[simp] theorem book_countFailure (path : Text) (st : State) :
    (countFailure path st).book = st.book := by
  obtain ⟨_, h⟩ := countFailure_state path st
  rw [h]

@[simp] theorem trail_countFailure (path : Text) (st : State) :
    (countFailure path st).trail = st.trail := by
  obtain ⟨_, h⟩ := countFailure_state path st
  rw [h]

@[simp] theorem book_respond (path : Text) (status : Nat)
    (result : Except Failure Json × State) :
    (respond path status result).2.book = result.2.book := by
  obtain ⟨_, h⟩ := respond_state path status result
  rw [h]

@[simp] theorem trail_respond (path : Text) (status : Nat)
    (result : Except Failure Json × State) :
    (respond path status result).2.trail = result.2.trail := by
  obtain ⟨_, h⟩ := respond_state path status result
  rw [h]

/-- A result that can be written is the answer. -/
theorem respond_writable {v : Json} (h : isWritable (shown v) = true) (path : Text) (status : Nat)
    (st : State) : respond path status (.ok v, st) = (⟨status, .json (shown v)⟩, st) := by
  unfold respond
  dsimp only
  rw [if_pos h]

/-- A result that cannot be written fails the request. -/
theorem status_respond_unwritable {v : Json} (h : isWritable (shown v) = false) (path : Text)
    (status : Nat) (st : State) : (respond path status (.ok v, st)).1.status = 500 := by
  unfold respond
  dsimp only
  rw [h]
  rfl

/-- What cannot be recorded fails the request. -/
theorem status_respond_auditFailure {f : Fault} (h : f.kind = .auditFailure) (path : Text)
    (status : Nat) (st : State) : (respond path status (.error (.fault f), st)).1.status = 500 := by
  show f.kind.body.status = 500
  rw [h]
  rfl

/-- An answer with the status of a success is the answer of an operation that succeeded. -/
theorem respond_ok {path : Text} {result : Except Failure Json × State}
    (h : (respond path 200 result).1.status = 200) :
    ∃ v, result.1 = .ok v ∧ isWritable (shown v) = true ∧ (respond path 200 result).2 = result.2 := by
  rcases result with ⟨f | v, st⟩
  · exact absurd h f.status_ne_ok
  · cases hw : isWritable (shown v) with
    | true => exact ⟨v, rfl, hw, by rw [respond_writable hw]⟩
    | false =>
      rw [status_respond_unwritable hw] at h
      exact absurd h (by decide)

/-! ### Giving a code -/

/-- The ways out of a request for a code. -/
inductive CodeStep (i : Issuer) (r : Request) (st : State) : Response × State → Prop
  | refused (f : Failure) :
      CodeStep i r st (⟨f.status, .json f.body⟩, countFailure (i.pathInUrl r) st)
  | given (id : Text) (s : Session) (named : r.sessionId = some id) (filled : id ≠ [])
      (found : st.book.store.get? id = some s) (live : st.now ≤ s.expiresAt) :
      CodeStep i r st (⟨200, .text []⟩, { st with book := (st.book.issueCode i.plan st.now s).2 })

/-- Invert a request for a code. -/
theorem code_step (i : Issuer) {r : Request} (st : State) (isFor : r.IsFor .authorizationCode) :
    CodeStep i r st (i.handle r st) := by
  rw [handle_of_isFor isFor]
  unfold serve issueCode
  dsimp only
  cases hs : st.book.session st.now r.sessionId with
  | error f => exact .refused (.fault f.report)
  | ok s =>
    obtain ⟨id, named, filled, found, live⟩ := Book.session_ok hs
    exact .given id s named filled found live

/-! ### What a request does to the book -/

/-- What a request can do to the book, with the answer that it gets where that matters. -/
inductive BookStep (i : Issuer) (r : Request) (st : State) : Response → Book → Prop
  | idle (answer : Response)
      (denied : r.IsFor .authorizationCode → answer.status ≠ 200) :
      BookStep i r st answer st.book
  | drawn (answer : Response) (isFor : r.IsFor .session) (q : SessionRequest) :
      BookStep i r st answer (st.book.newSession i.plan st.now q).2
  | opened (answer : Response) (isFor : r.IsFor .session) (q : SessionRequest) :
      BookStep i r st answer ((st.book.newSession i.plan st.now q).2.save
        (st.book.newSession i.plan st.now q).1 q)
  | code (id : Text) (s : Session) (isFor : r.IsFor .authorizationCode)
      (named : r.sessionId = some id) (found : st.book.store.get? id = some s) :
      BookStep i r st ⟨200, .text []⟩ (st.book.issueCode i.plan st.now s).2
  | exchanged (answer : Response) (isFor : r.IsFor .token)
      (result : Except Failure Json × State)
      (step : ExchangeStep i (.bytes r.body) r.clientAddress st result) :
      BookStep i r st answer result.2.book

theorem serve_session_step {i : Issuer} {r : Request} (st : State) (h : r.IsFor .session) :
    BookStep i r st (i.serve .session r st).1 (i.serve .session r st).2.book := by
  -- no request is for two endpoints, so the answer does not matter here
  have hother : r.IsFor .authorizationCode → (i.serve .session r st).1.status ≠ 200 :=
    fun h' => Endpoint.noConfusion (h.unique h')
  show BookStep i r st _ (respond (i.pathInUrl r) 201 _).2.book
  rw [book_respond]
  generalize (i.serve .session r st).1 = answer at hother
  have hstep := opening_step i (.bytes r.body) r.clientAddress st
  generalize i.openSession (.bytes r.body) r.clientAddress st = result at hstep
  cases hstep with
  | refused _ _ _ _ => exact .idle answer hother
  | unrecorded q _ _ _ _ _ _ => exact .drawn answer h q
  | opened q _ _ _ _ _ => exact .opened answer h q

theorem serve_authorization_step {i : Issuer} {r : Request} (st : State)
    (h : r.IsFor .authorization) :
    BookStep i r st (i.serve .authorization r st).1 (i.serve .authorization r st).2.book := by
  have hother : r.IsFor .authorizationCode → (i.serve .authorization r st).1.status ≠ 200 :=
    fun h' => Endpoint.noConfusion (h.unique h')
  show BookStep i r st _ (respond (i.pathInUrl r) 200 _).2.book
  rw [book_respond]
  have hstep := authorize_step i r.sessionId r.authorization r.clientAddress st
  have hbook :
      (i.authorize r.sessionId r.authorization r.clientAddress st).2.book = st.book := by
    generalize i.authorize r.sessionId r.authorization r.clientAddress st = result at hstep
    cases hstep <;> rfl
  rw [hbook]
  exact .idle _ hother

theorem serve_authorizationCode_step {i : Issuer} {r : Request} (st : State)
    (h : r.IsFor .authorizationCode) :
    BookStep i r st (i.serve .authorizationCode r st).1
      (i.serve .authorizationCode r st).2.book := by
  rw [← handle_of_isFor h]
  have hstep := code_step i st h
  generalize i.handle r st = result at hstep ⊢
  cases hstep with
  | refused f =>
    rw [book_countFailure]
    exact .idle _ fun _ => f.status_ne_ok
  | given id s named _ found _ => exact .code id s h named found

/-- Invert a request, as far as the book is concerned. -/
theorem handle_step (i : Issuer) (r : Request) (st : State) :
    BookStep i r st (i.handle r st).1 (i.handle r st).2.book := by
  rcases isFor_or_notServed i r st with ⟨e, h⟩ | ⟨hstatus, hsame⟩
  · rw [handle_of_isFor h]
    cases e with
    | session => exact serve_session_step st h
    | authorization => exact serve_authorization_step st h
    | authorizationCode => exact serve_authorizationCode_step st h
    | token =>
      show BookStep i r st _ (respond (i.pathInUrl r) 200 _).2.book
      rw [book_respond]
      exact .exchanged _ h _ (exchange_step i _ _ st)
    | metrics => exact .idle _ fun h' => Endpoint.noConfusion (h.unique h')
  · rw [hsame]
    refine .idle _ fun _ hok => ?_
    rw [hok] at hstatus
    exact absurd hstatus (by decide)

/-! ### What no request changes -/

/-- Two states at one time, with the same registrations. -/
structure SameSetting (st st' : State) : Prop where
  now : st'.now = st.now
  registry : st'.registry = st.registry

theorem SameSetting.refl (st : State) : SameSetting st st := ⟨rfl, rfl⟩

theorem sameSetting_respond {st : State} {result : Except Failure Json × State}
    (h : SameSetting st result.2) (path : Text) (status : Nat) :
    SameSetting st (respond path status result).2 := by
  obtain ⟨_, heq⟩ := respond_state path status result
  rw [heq]
  exact ⟨h.now, h.registry⟩

theorem sameSetting_openSession (i : Issuer) (body : Payload) (clientAddress : Option Text)
    (st : State) : SameSetting st (i.openSession body clientAddress st).2 := by
  have h := opening_step i body clientAddress st
  generalize i.openSession body clientAddress st = result at h
  cases h <;> exact ⟨rfl, rfl⟩

theorem sameSetting_authorize (i : Issuer) (sessionId : Option Text) (r : AuthorizationRequest)
    (clientAddress : Option Text) (st : State) :
    SameSetting st (i.authorize sessionId r clientAddress st).2 := by
  have h := authorize_step i sessionId r clientAddress st
  generalize i.authorize sessionId r clientAddress st = result at h
  cases h <;> exact ⟨rfl, rfl⟩

theorem sameSetting_exchange (i : Issuer) (body : Payload) (clientAddress : Option Text)
    (st : State) : SameSetting st (i.exchange body clientAddress st).2 := by
  have h := exchange_step i body clientAddress st
  generalize i.exchange body clientAddress st = result at h
  cases h <;> exact ⟨rfl, rfl⟩

/-- A request takes no time and registers nobody. -/
theorem handle_sameSetting (i : Issuer) (r : Request) (st : State) :
    SameSetting st (i.handle r st).2 := by
  rcases isFor_or_notServed i r st with ⟨e, h⟩ | ⟨-, hsame⟩
  · rw [handle_of_isFor h]
    cases e with
    | session => exact sameSetting_respond (sameSetting_openSession i _ _ st) _ _
    | authorization => exact sameSetting_respond (sameSetting_authorize i _ _ _ st) _ _
    | authorizationCode =>
      rw [← handle_of_isFor h]
      have hstep := code_step i st h
      generalize i.handle r st = result at hstep ⊢
      cases hstep with
      | refused f =>
        obtain ⟨_, hcounted⟩ := countFailure_state (i.pathInUrl r) st
        rw [hcounted]
        exact ⟨rfl, rfl⟩
      | given _ _ _ _ _ _ => exact ⟨rfl, rfl⟩
    | token => exact sameSetting_respond (sameSetting_exchange i _ _ st) _ _
    | metrics => exact .refl st
  · rw [hsame]
    exact .refl st

/-! ### What every request keeps -/

theorem kept_bound {i : Issuer} {st : State} {s stored : Session} (h : st.book.Kept i.plan)
    (binds : Binds st s stored) : (i.bound st s stored).Kept i.plan :=
  (h.draw 0 1).withSession binds.found rfl rfl

theorem ExchangeStep.kept {i : Issuer} {body : Payload} {clientAddress : Option Text} {st : State}
    {result : Except Failure Json × State} (h : st.book.Kept i.plan)
    (step : ExchangeStep i body clientAddress st result) : result.2.book.Kept i.plan := by
  cases step with
  | refused f counters _ => exact h
  | replayed r s _ drawn counted _ trail counters =>
    obtain ⟨more, rfl⟩ := Nat.exists_eq_add_of_le counted
    exact (h.draw 0 more).revokeToken s
  | missing r s _ _ => exact h.draw 0 1
  -- the token is bound whether or not it can be recorded
  | unrecorded r s stored _ binds f trail _ => exact kept_bound h binds
  | issued r s stored _ binds trail _ counters => exact kept_bound h binds

theorem BookStep.kept {i : Issuer} {r : Request} {st : State} {answer : Response} {b : Book}
    (h : st.book.Kept i.plan) (step : BookStep i r st answer b) : b.Kept i.plan := by
  cases step with
  | idle _ _ => exact h
  | drawn _ _ q => exact h.draw 1 0
  | opened _ _ q => exact h.save_newSession st.now q
  | code id s _ _ found => exact h.issueCode st.now found
  | exchanged _ _ result step => exact step.kept h

/-! ### Events -/

/-- What can happen to an issuer: a request, time passing, and what is done to the files of its
trail and to its registrations from outside. -/
inductive Event
  | request (r : Request)
  | advance (seconds : Int)
  | trail (found : Audit.Trail)
  | registry (registered : Registry)

/-- The state after an event. -/
def after (i : Issuer) (st : State) : Event → State
  | .request r => (i.handle r st).2
  | .advance seconds => st.advance seconds
  | .trail found => { st with trail := found }
  | .registry registered => { st with registry := registered }

/-- The state after events, one after the other. -/
def run (i : Issuer) (st : State) (events : List Event) : State := events.foldl i.after st

theorem after_request (i : Issuer) (st : State) (r : Request) :
    i.after st (.request r) = (i.handle r st).2 := rfl

@[simp] theorem run_nil (i : Issuer) (st : State) : i.run st [] = st := rfl

@[simp] theorem run_cons (i : Issuer) (st : State) (e : Event) (events : List Event) :
    i.run st (e :: events) = i.run (i.after st e) events := rfl

theorem run_append (i : Issuer) (st : State) (earlier later : List Event) :
    i.run st (earlier ++ later) = i.run (i.run st earlier) later := List.foldl_append

/-- The answer to an event, if it is a request. -/
def answer? (i : Issuer) (st : State) : Event → Option Response
  | .request r => some (i.handle r st).1
  | .advance _ | .trail _ | .registry _ => none

/-- The answers to the requests among events, one after the other. -/
def answers (i : Issuer) (st : State) : List Event → List Response
  | [] => []
  | e :: events => (i.answer? st e).toList ++ i.answers (i.after st e) events

theorem answers_append (i : Issuer) (st : State) (earlier later : List Event) :
    i.answers st (earlier ++ later) =
      i.answers st earlier ++ i.answers (i.run st earlier) later := by
  induction earlier generalizing st with
  | nil => rfl
  | cons e earlier ih =>
    rw [List.cons_append, answers, answers, ih, List.append_assoc]
    rfl

/-- The states that events lead to from a fresh issuer. -/
inductive Reachable (i : Issuer) : State → Prop
  | initial (now : Int) (registry : Registry) : Reachable i (.initial now registry)
  | after {st : State} (e : Event) (h : Reachable i st) : Reachable i (i.after st e)

theorem Reachable.run {i : Issuer} {st : State} (h : Reachable i st) (events : List Event) :
    Reachable i (i.run st events) := by
  induction events generalizing st with
  | nil => exact h
  | cons e events ih => exact ih (.after e h)

theorem Reachable.handle {i : Issuer} {st : State} (h : Reachable i st) (r : Request) :
    Reachable i (i.handle r st).2 :=
  .after (.request r) h

/-- Every event keeps what a book keeps. -/
theorem kept_after {i : Issuer} {st : State} (h : st.book.Kept i.plan) (e : Event) :
    (i.after st e).book.Kept i.plan := by
  cases e with
  | request r => exact (handle_step i r st).kept h
  | advance _ => exact h
  | trail _ => exact h
  | registry _ => exact h

theorem kept_run {i : Issuer} {st : State} (h : st.book.Kept i.plan) (events : List Event) :
    (i.run st events).book.Kept i.plan := by
  induction events generalizing st with
  | nil => exact h
  | cons e events ih => exact ih (kept_after h e)

theorem Reachable.kept {i : Issuer} {st : State} (h : Reachable i st) : st.book.Kept i.plan := by
  induction h with
  | initial now registry => exact Book.Kept.empty i.plan
  | after e _ ih => exact kept_after ih e

end Issuer

end Issuance
