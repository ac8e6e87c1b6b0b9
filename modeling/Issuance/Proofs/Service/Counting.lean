import Issuance.Proofs.Service.Denial
import Issuance.Proofs.Service.Record
import Issuance.Proofs.Service.Url

/-!
# Issuance.Proofs.Service.Counting

**What is counted where.** Three places count: an operation what it did, a failing operation why it
failed, and the answer that it failed. What an exchange counts is told by its result alone
(`exchange_counts`), and so is its answer; a request for the code counts what it sends
(`counters_authorize`). None of them counts failures of endpoints: these are counted for the answer
alone, by the path of the request's URL (`count_handle_failed`), along every run and whatever its
requests (`count_run_failed`). Where they keep their paths, the failures that are counted for an
endpoint are all its failures (`countP_asks_dialogue`).
-/

namespace Issuance

theorem Counters.count_bumpIf_add (c d : Counter) (condition : Bool) (k : Counters) :
    (k.bumpIf condition c).count d = k.count d + if condition = true ∧ d = c then 1 else 0 := by
  cases condition with
  | true => simp [bumpIf, count_bump]
  | false => simp [bumpIf]

namespace Http

/-! ### What a request and its answer tell -/

theorem Request.IsFor.iff_eq {r : Request} {e : Endpoint} (h : r.IsFor e) (e' : Endpoint) :
    r.IsFor e' ↔ e = e' :=
  ⟨h.unique, fun heq => heq ▸ h⟩

instance (r : Request) (e : Endpoint) : Decidable (r.IsFor e) :=
  decidable_of_iff (r.method = e.method ∧ r.path = e.path)
    ⟨fun ⟨method, path⟩ => ⟨method, path⟩, fun h => ⟨h.method, h.path⟩⟩

/-- A request for an endpoint. -/
def Asks (e : Endpoint) (p : Request × Response) : Prop := p.1.IsFor e

/-- A request for an endpoint that is answered as a success. -/
def Succeeds (e : Endpoint) (p : Request × Response) : Prop := p.1.IsFor e ∧ p.2.status = 200

instance (e : Endpoint) : DecidablePred (Asks e) := fun p =>
  inferInstanceAs (Decidable (p.1.IsFor e))

instance (e : Endpoint) : DecidablePred (Succeeds e) := fun p =>
  inferInstanceAs (Decidable (p.1.IsFor e ∧ p.2.status = 200))

end Http

namespace Issuer

open Http Session SessionRequest Audit
open Session.Fault (replayDescription)

/-! ### What an operation counts -/

/-- Whether a failure is that of a client that has not shown that the code is its own. -/
def isUnverified : Failure → Bool
  | .fault f => f.kind == .tokenValidation
  | .internal => false

/-- What an exchange counts is told by its result. -/
def exchangeCounts (k : Counters) : Except Failure Json → Counters
  | .ok _ => k.bump .accessTokenIssued
  | .error f => (k.bumpIf (isReplay f) .codeReplayed).bumpIf (isUnverified f)
      .tokenVerificationFailed

/-- The only description that a failure can have is that of a replay. -/
def IsPlain : Failure → Prop
  | .fault f => f.description = if f.kind = .replayDetected then some replayDescription else none
  | .internal => True

/-- What an exchange counts, and how it fails. -/
structure ExchangeCounts (k : Counters) (result : Except Failure Json × State) : Prop where
  counted : result.2.counters = exchangeCounts k result.1
  plain : ∀ f, result.1 = .error f → IsPlain f

section ExchangeCounts

variable {k : Counters} {result : Except Failure Json × State} {f : Fault}

/-- A fault that is neither a replay nor the client's is counted by the endpoint alone. -/
theorem exchangeCounts_of_uncounted (failed : result.1 = .error (.fault f))
    (same : result.2.counters = k) (plain : f.description = none)
    (replay : f.kind ≠ .replayDetected) (client : f.kind ≠ .tokenValidation) :
    ExchangeCounts k result where
  counted := by
    simp [failed, same, exchangeCounts, isReplay, isUnverified, Counters.bumpIf, replay, client]
  plain := by
    rintro _ hf
    cases failed.symm.trans hf
    simpa [IsPlain, replay] using plain

theorem exchangeCounts_internal (failed : result.1 = .error .internal)
    (same : result.2.counters = k) : ExchangeCounts k result where
  counted := by simp [failed, same, exchangeCounts, isReplay, isUnverified, Counters.bumpIf]
  plain := by
    rintro _ hf
    cases failed.symm.trans hf
    trivial

/-- What cannot be recorded is told without a description. -/
theorem exchangeCounts_of_unrecorded (failed : result.1 = .error (.fault f))
    (same : result.2.counters = k) {trail trail' : Trail} {source : Source} {type : EventType}
    {s : Session} {clientAddress : Option Text} {extensions : List (Text × Json)} {now : Int}
    (unrecorded : trail.publish source type s clientAddress extensions now = (.error f, trail')) :
    ExchangeCounts k result := by
  have hkind := kind_of_publish_error unrecorded
  refine exchangeCounts_of_uncounted failed same ?_ (by simp [hkind]) (by simp [hkind])
  simp only [Trail.publish] at unrecorded
  split at unrecorded <;> cases unrecorded
  rfl

end ExchangeCounts

theorem issueToken_counts (i : Issuer) (s : Session) (clientAddress : Option Text) (st : State) :
    ExchangeCounts st.counters (i.issueToken s clientAddress st) := by
  have h := Book.issueToken_step i.plan st.now s st.book
  simp only [issueToken]
  generalize st.book.issueToken i.plan st.now s = result at h
  cases h with
  | replayed drawn _ _ =>
    -- the replay is counted before it is recorded, and the record changes the trail only
    obtain ⟨trail, htrail⟩ := publish_eq i .codeReplayed s clientAddress []
      (State.count .codeReplayed { st with
        book := (({ st.book with secretsDrawn := drawn } : Book).revokeToken s).2 })
    refine ⟨?_, by rintro _ ⟨⟩; rfl⟩
    exact congrArg State.counters htrail
  | missing _ _ =>
    exact exchangeCounts_internal rfl rfl
  | bound stored _ _ _ =>
    simp only [publish]
    rcases hp : st.trail.publish i.source .accessTokenIssued s clientAddress [] st.now with
      ⟨f | _, trail⟩
    · exact exchangeCounts_of_unrecorded rfl rfl hp
    · exact ⟨rfl, nofun⟩

theorem exchange_counts (i : Issuer) (body : Payload) (clientAddress : Option Text) (st : State) :
    ExchangeCounts st.counters (i.exchange body clientAddress st) := by
  simp only [exchange]
  cases TokenRequest.ofPayload body with
  | error f => exact exchangeCounts_of_uncounted rfl rfl rfl nofun nofun
  | ok q =>
    simp only [exchangeFor]
    cases hs : st.book.sessionOfCode st.now (some q.code) with
    | error f =>
      obtain ⟨hbody, plain⟩ := Book.isDenial_of_sessionOfCode hs
      refine exchangeCounts_of_uncounted rfl rfl plain ?_ ?_ <;>
        · intro hkind
          rw [hkind] at hbody
          cases hbody
    | ok s =>
      dsimp only
      cases q.check st.registry st.now s with
      | ok _ => exact issueToken_counts i s clientAddress st
      | error refusal =>
        dsimp only
        cases refusal with
        | client f => cases f <;> exact exchangeCounts_of_uncounted rfl rfl rfl nofun nofun
        | assertion report => exact ⟨rfl, by rintro _ ⟨⟩; rfl⟩
        | redirectMismatch given registered => exact ⟨rfl, by rintro _ ⟨⟩; rfl⟩
        | unprovided => exact exchangeCounts_internal rfl rfl

/-- A request for the code counts what it sends, and a code that is missing. -/
theorem counters_authorize (i : Issuer) (sessionId : Option Text) (q : AuthorizationRequest)
    (clientAddress : Option Text) (st : State) :
    ∃ missing, (i.authorize sessionId q clientAddress st).2.counters =
      (st.counters.bumpIf (i.authorize sessionId q clientAddress st).1.isOk
        .authorizationSent).bumpIf missing .noAuthorizationCode := by
  simp only [authorize]
  split
  · exact ⟨false, rfl⟩
  · split
    · exact ⟨true, rfl⟩
    · exact ⟨false, rfl⟩
    · simp only [publish]
      split <;> rename_i hp <;> split at hp <;> cases hp
      · exact ⟨false, rfl⟩
      · exact ⟨false, rfl⟩

/-- An opening counts sessions and exhausted keys, and nothing else. -/
theorem count_openSession (i : Issuer) (body : Payload) (clientAddress : Option Text) (st : State)
    {c : Counter} (created : c ≠ .sessionCreated) (keys : c ≠ .keysUnavailable) :
    (i.openSession body clientAddress st).2.counters.count c = st.counters.count c := by
  simp only [openSession, validate]
  cases (i.validator.validate st.registry st.now body clientAddress).result with
  | error f => exact Counters.count_bumpIf keys _ _
  | ok q =>
    simp only [openFor, publish]
    rcases st.trail.publish i.source .start (st.book.newSession i.plan st.now q).1 clientAddress
      (openingExtensions q) st.now with ⟨f | _, trail⟩
    · exact Counters.count_bumpIf keys _ _
    · simp only [State.count, Counters.count_bump, created, if_false, Nat.add_zero]
      exact Counters.count_bumpIf keys _ _

/-- What an exchange counts is no failure: that is left to its answer. -/
theorem count_exchange {c : Counter} (h : c ∈ failureCounters) (i : Issuer) (body : Payload)
    (clientAddress : Option Text) (st : State) :
    (i.exchange body clientAddress st).2.counters.count c = st.counters.count c := by
  have hother : ∀ c ∈ failureCounters,
      c ≠ .accessTokenIssued ∧ c ≠ .codeReplayed ∧ c ≠ .tokenVerificationFailed := by decide
  obtain ⟨hissued, hreplayed, hunverified⟩ := hother c h
  rw [(exchange_counts i body clientAddress st).counted]
  cases (i.exchange body clientAddress st).1 with
  | ok v => simp [exchangeCounts, Counters.count_bump, hissued]
  | error f => simp [exchangeCounts, Counters.count_bumpIf_add, hreplayed, hunverified]

theorem count_authorize {c : Counter} (h : c ∈ failureCounters) (i : Issuer)
    (sessionId : Option Text) (q : AuthorizationRequest) (clientAddress : Option Text)
    (st : State) :
    (i.authorize sessionId q clientAddress st).2.counters.count c = st.counters.count c := by
  have hother : ∀ c ∈ failureCounters, c ≠ .authorizationSent ∧ c ≠ .noAuthorizationCode := by
    decide
  obtain ⟨hsent, hmissing⟩ := hother c h
  obtain ⟨missing, hcounted⟩ := counters_authorize i sessionId q clientAddress st
  simp [hcounted, Counters.count_bumpIf_add, hsent, hmissing]

/-! ### Which failures are counted where -/

/-- A request that is answered as a failure, and whose URL has the path of an endpoint. It need not
be the endpoint that is asked. -/
def FailsAt (i : Issuer) (e : Endpoint) (p : Request × Response) : Prop :=
  p.2.IsFailure ∧ i.pathInUrl p.1 = e.path

instance (i : Issuer) (e : Endpoint) : DecidablePred (FailsAt i e) := fun p =>
  inferInstanceAs (Decidable (p.2.IsFailure ∧ i.pathInUrl p.1 = e.path))

section Failures

variable {i : Issuer} {r : Request}

/-- An answer counts a failure for the endpoint whose path is in the URL. -/
theorem count_respond_failed {e : Endpoint} {c : Counter} (h : e.failureCounter? = some c)
    {status : Nat} (success : status ∉ Failure.statuses) (i : Issuer) (r : Request)
    (result : Except Failure Json × State) :
    (respond (i.pathInUrl r) status result).2.counters.count c = result.2.counters.count c +
      if FailsAt i e (r, (respond (i.pathInUrl r) status result).1) then 1 else 0 := by
  rw [count_respond success]
  exact congrArg _ (if_congr (and_congr_right' (failureCounter?_eq_some_iff h)) rfl rfl)

/-- A request that no endpoint serves is not counted as a failure of one. -/
theorem not_isFailure_of_notServed {answer : Response} (h : answer.status ∈ [404, 405]) :
    ¬ answer.IsFailure := by
  have hnever : ∀ status ∈ [404, 405], status ∉ Failure.statuses := by decide
  exact hnever _ h

/-- **What counts the failures of an endpoint counts those whose URL has its path.** -/
theorem count_handle_failed {e : Endpoint} {c : Counter} (h : e.failureCounter? = some c)
    (i : Issuer) (r : Request) (st : State) : (i.handle r st).2.counters.count c =
      st.counters.count c + if FailsAt i e (r, (i.handle r st).1) then 1 else 0 := by
  have hmem : c ∈ failureCounters := mem_failureCounters ((failureCounter?_eq_some_iff h).2 rfl)
  rcases isFor_or_notServed i r st with ⟨e', isFor⟩ | ⟨notServed, hsame⟩
  · cases e' with
    | session =>
      have hother : ∀ c ∈ failureCounters, c ≠ .sessionCreated ∧ c ≠ .keysUnavailable := by decide
      obtain ⟨hcreated, hkeys⟩ := hother c hmem
      rw [handle_opening isFor, count_respond_failed h (by decide),
        count_openSession _ _ _ _ hcreated hkeys]
    | authorization =>
      rw [handle_authorization isFor, count_respond_failed h (by decide), count_authorize hmem]
    | token =>
      rw [handle_token isFor, count_respond_failed h (by decide), count_exchange hmem]
    | authorizationCode =>
      have hstep := code_step i st isFor
      generalize i.handle r st = result at hstep
      cases hstep with
      | refused f =>
        -- the answer is that of an operation that fails at once
        exact count_respond_failed h (by decide : (200 : Nat) ∉ Failure.statuses) i r (.error f, st)
      | given _ _ _ _ _ _ => simp [FailsAt, Response.IsFailure, Failure.statuses]
    | metrics =>
      rw [handle_of_isFor isFor]
      simp [serve, FailsAt, Response.IsFailure, Failure.statuses]
  · have hnot := not_isFailure_of_notServed notServed
    rw [hsame, if_neg fun hfails => hnot hfails.1, Nat.add_zero]

/-- A request is answered with a success or a failure by any endpoint but that of the sessions,
which has another status for a success. -/
theorem status_handle {e : Endpoint} (other : e ≠ .session) (isFor : r.IsFor e) (st : State) :
    (i.handle r st).1.status = 200 ∨ (i.handle r st).1.IsFailure := by
  rw [handle_of_isFor isFor]
  cases e with
  | session => exact absurd rfl other
  | authorization => exact status_respond _ 200 _
  | token => exact status_respond _ 200 _
  | authorizationCode =>
    simp only [serve, issueCode]
    cases st.book.session st.now r.sessionId with
    | error f => exact Or.inr (Failure.fault f.report).status_mem
    | ok s => exact Or.inl rfl
  | metrics => exact Or.inl rfl

/-- A request that keeps its path is one for an endpoint where it succeeds there or fails there. -/
theorem asks_iff (keeps : i.KeepsPath r) {e : Endpoint} (other : e ≠ .session) (st : State) :
    Asks e (r, (i.handle r st).1) ↔
      Succeeds e (r, (i.handle r st).1) ∨ FailsAt i e (r, (i.handle r st).1) := by
  constructor
  · intro isFor
    rcases status_handle (i := i) other isFor st with hok | hfailure
    · exact Or.inl ⟨isFor, hok⟩
    · exact Or.inr ⟨hfailure, keeps e isFor⟩
  · rintro (⟨isFor, -⟩ | ⟨hfailure, hpath⟩)
    · exact isFor
    · rcases isFor_or_notServed i r st with ⟨e', isFor⟩ | ⟨notServed, -⟩
      · have hsame : e' = e := Endpoint.path_inj ((keeps e' isFor).symm.trans hpath)
        exact hsame ▸ isFor
      · exact absurd hfailure (not_isFailure_of_notServed notServed)

end Failures

/-- Requests that succeed at an endpoint or fail there, one by one, do so in all. -/
theorem countP_asks {i : Issuer} {e : Endpoint} {asked : List (Request × Response)}
    (h : ∀ p ∈ asked, Asks e p ↔ Succeeds e p ∨ FailsAt i e p) :
    asked.countP (Asks e ·) = asked.countP (Succeeds e ·) + asked.countP (FailsAt i e ·) := by
  induction asked with
  | nil => rfl
  | cons p rest ih =>
    obtain ⟨hp, hrest⟩ := List.forall_mem_cons.1 h
    have hnever : (200 : Nat) ∉ Failure.statuses := by decide
    have hnotboth : Succeeds e p → ¬ FailsAt i e p := fun hs hf => hnever (hs.2 ▸ hf.1)
    simp only [List.countP_cons, decide_eq_true_eq, ih hrest, hp]
    by_cases hs : Succeeds e p
    · simp only [hs, hnotboth hs, true_or, if_true, if_false]
      omega
    · simp only [hs, false_or, if_false]
      omega

/-! ### Along a run -/

/-- **Failures are counted by the paths of their URLs**, along every run and whatever the requests
in it. -/
theorem count_run_failed {e : Endpoint} {c : Counter} (h : e.failureCounter? = some c)
    (i : Issuer) (st : State) (events : List Event) : (i.run st events).counters.count c =
      st.counters.count c + (i.dialogue st events).countP (FailsAt i e ·) := by
  induction events generalizing st with
  | nil => rfl
  | cons e' events ih =>
    rw [run_cons, ih]
    cases e' with
    | request r =>
      have hcons : i.dialogue st (.request r :: events) =
          (r, (i.handle r st).1) :: i.dialogue (i.after st (.request r)) events := rfl
      rw [hcons, List.countP_cons, after_request, count_handle_failed h]
      simp only [decide_eq_true_eq]
      omega
    | advance _ => rfl
    | trail _ => rfl
    | registry _ => rfl

/-- What holds of every request with its answer holds along a dialogue. -/
theorem forall_mem_dialogue {i : Issuer} {P : Request × Response → Prop} {events : List Event}
    (h : ∀ r, .request r ∈ events → ∀ st, P (r, (i.handle r st).1)) (st : State) :
    ∀ p ∈ i.dialogue st events, P p := by
  induction events generalizing st with
  | nil => exact List.forall_mem_nil _
  | cons e events ih =>
    have hrest := ih (fun r hr => h r (List.mem_cons_of_mem e hr)) (i.after st e)
    cases e with
    | request r => exact List.forall_mem_cons.2 ⟨h r List.mem_cons_self st, hrest⟩
    | advance _ => exact hrest
    | trail _ => exact hrest
    | registry _ => exact hrest

/-- Where all requests keep their paths, those for an endpoint are its successes and the failures
that are counted for it. -/
theorem countP_asks_dialogue {i : Issuer} {e : Endpoint} (other : e ≠ .session)
    {events : List Event} (keeps : ∀ r, .request r ∈ events → i.KeepsPath r) (st : State) :
    (i.dialogue st events).countP (Asks e ·) =
      (i.dialogue st events).countP (Succeeds e ·) +
        (i.dialogue st events).countP (FailsAt i e ·) :=
  countP_asks (forall_mem_dialogue (fun r hr st => asks_iff (keeps r hr) other st) st)

end Issuer

end Issuance
