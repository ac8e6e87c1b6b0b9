import Issuance.Proofs.Service.Redemption
import Issuance.Proofs.Session.History

/-!
# Issuance.Proofs.Service.Replay

**When a replay is answered as one.** A code that was redeemed is found again only through the
index, so a second presentation is seen for what it is as long as the index has the code. Two
facts about every request carry the argument along a run:

* while a session is not given a new code, the stored session keeps its code, its client, its
  redirect URI and its token (`BookStep.keepsGrant`);
* once the session is given a new code, the old one is gone from the index, and it never comes
  back, because codes do not repeat (`BookStep.gone`).

So a replay is answered as one exactly if the session was given no other code since
(`replay_answered_iff`).
-/

namespace Issuance

namespace Session

/-- What a session with a bound token keeps as long as it is given no other code. -/
structure KeepsGrant (s s' : Session) : Prop extends KeepsToken s s' where
  clientId : s'.clientId = s.clientId
  redirectUri : s'.redirectUri = s.redirectUri
  authorizationCode : s'.authorizationCode = s.authorizationCode

namespace KeepsGrant

theorem refl (s : Session) : s.KeepsGrant s := ⟨KeepsToken.refl s, rfl, rfl, rfl⟩

theorem trans {s s' s'' : Session} (h : s.KeepsGrant s') (h' : s'.KeepsGrant s'') :
    s.KeepsGrant s'' where
  toKeepsToken := h.toKeepsToken.trans h'.toKeepsToken
  clientId := h'.clientId.trans h.clientId
  redirectUri := h'.redirectUri.trans h.redirectUri
  authorizationCode := h'.authorizationCode.trans h.authorizationCode

end KeepsGrant

namespace Book

/-! ### Codes that are gone -/

/-- A code that has been drawn, and that the index does not have. -/
structure Gone (plan : Plan) (b : Book) (code : Text) : Prop where
  drawn : Drawn plan.generators.secret b.secretsDrawn code
  unindexed : Entries.get? code b.store.codes = none

/-- Putting a session with another code does not bring back a code that is gone. -/
theorem unindexed_put {st : Store} {s : Session} {code : Text}
    (h : Entries.get? code st.codes = none) (hne : s.code? ≠ some code) :
    Entries.get? code (st.put s).codes = none := by
  rw [Store.get?_codes_put, if_neg hne]
  split
  · rfl
  · exact h

/-- A session that is given a new code loses its old one. -/
theorem gone_issueCode {plan : Plan} {now : Int} {b : Book} {id code : Text} {s : Session}
    (kept : b.Kept plan) (unrepeated : (b.issueCode plan now s).2.Unrepeated plan)
    (hs : b.store.get? id = some s) (hcode : s.code? = some code) :
    (b.issueCode plan now s).2.Gone plan code := by
  have hdrawn := kept.codes id s code hs hcode
  have hid : s.id = id := kept.keyed id s hs
  have hfresh := Distinct.next_ne unrepeated.secrets hdrawn
  refine ⟨hdrawn.mono (Nat.le_succ _), ?_⟩
  show Entries.get? code (b.store.put _).codes = none
  -- the new code is another one, and the put forgets the code that was stored
  rw [Store.get?_codes_put, if_neg, if_pos]
  · refine ⟨s, ?_, hcode⟩
    show b.store.get? s.id = some s
    rw [hid]
    exact hs
  · intro hgiven
    exact hfresh (Option.some.inj (code?_eq_some.1 hgiven).1)

end Book

end Session

namespace Issuer

open Http Session

/-! ### What every request does to the book -/

theorem goesOn_bound {i : Issuer} {st : State} {s stored : Session} (binds : Binds st s stored) :
    st.book.GoesOn (i.bound st s stored) :=
  ⟨⟨Nat.le_refl _, Nat.le_succ _⟩, fun made => made.bind binds.found binds.storedFree _ _ _⟩

theorem ExchangeStep.goesOn {i : Issuer} {body : Payload} {clientAddress : Option Text}
    {st : State} {result : Except Failure Json × State}
    (step : ExchangeStep i body clientAddress st result) : st.book.GoesOn result.2.book := by
  cases step with
  | refused _ _ _ => exact Book.GoesOn.refl st.book
  | replayed _ s _ drawn counted _ _ _ =>
    obtain ⟨more, rfl⟩ := Nat.exists_eq_add_of_le counted
    exact (Book.goesOn_draw st.book 0 more).trans (Book.goesOn_revokeToken s _)
  | missing _ _ _ _ => exact Book.goesOn_draw st.book 0 1
  -- the token is bound whether or not it can be recorded
  | unrecorded _ _ _ _ binds _ _ _ => exact goesOn_bound binds
  | issued _ _ _ _ binds _ _ _ => exact goesOn_bound binds

theorem BookStep.goesOn {i : Issuer} {r : Request} {st : State} {answer : Response} {b : Book}
    (step : BookStep i r st answer b) : st.book.GoesOn b := by
  cases step with
  | idle _ _ => exact Book.GoesOn.refl st.book
  | drawn _ _ _ => exact Book.goesOn_draw st.book 1 0
  | opened _ _ q => exact (Book.goesOn_draw st.book 1 0).trans (Book.goesOn_save _ q _)
  | code _ s _ _ _ => exact Book.goesOn_issueCode i.plan st.now s st.book
  | exchanged _ _ _ step => exact step.goesOn

theorem after_draws (i : Issuer) (st : State) (e : Event) :
    st.book.Draws (i.after st e).book := by
  cases e with
  | request r => exact (handle_step i r st).goesOn.toDraws
  | advance _ => exact Book.Draws.refl st.book
  | trail _ => exact Book.Draws.refl st.book
  | registry _ => exact Book.Draws.refl st.book

theorem run_draws (i : Issuer) (st : State) (events : List Event) :
    st.book.Draws (i.run st events).book := by
  induction events generalizing st with
  | nil => exact Book.Draws.refl st.book
  | cons e events ih => exact (after_draws i st e).trans (ih (i.after st e))

/-! ### The index has every code -/

theorem BookStep.complete {i : Issuer} {r : Request} {st : State} {answer : Response} {b : Book}
    (kept : st.book.Kept i.plan) (complete : st.book.store.Complete)
    (unrepeated : b.Unrepeated i.plan) (step : BookStep i r st answer b) : b.store.Complete := by
  cases step with
  | idle _ _ => exact complete
  | drawn _ _ _ => exact complete
  | opened _ _ q =>
    rw [Book.store_save, Book.store_newSession]
    exact complete.put fun _ _ _ _ _ => rfl
  | code id s _ _ found =>
    refine complete.put fun other t ht _ hsame => ?_
    rw [← hsame]
    cases hcode : t.code? with
    | none => rfl
    | some code =>
      -- a code that is in use has been drawn before
      have hne := Book.Distinct.next_ne unrepeated.secrets (kept.codes other t code ht hcode)
      rw [hcode] at hsame
      exact absurd (Option.some.inj (code?_eq_some.1 hsame.symm).1) hne
  | exchanged _ _ _ step =>
    rcases step.store_cases kept with hsame | ⟨q, s, s', accepts, overwrites, hstore⟩
    · rw [hsame]
      exact complete
    · rw [hstore]
      refine complete.withSession (accepts.stored kept).1 ?_
      cases overwrites <;> rfl

/-- While ids and codes do not repeat, the index has the current code of every session. -/
theorem Reachable.complete {i : Issuer} {st : State} (h : Reachable i st)
    (unrepeated : st.book.Unrepeated i.plan) : st.book.store.Complete := by
  induction h with
  | initial now registry => exact Store.complete_empty
  | @after st e reachable ih =>
    have hearlier := ih (unrepeated.mono (after_draws i st e))
    cases e with
    | request r => exact (handle_step i r st).complete reachable.kept hearlier unrepeated
    | advance _ => exact hearlier
    | trail _ => exact hearlier
    | registry _ => exact hearlier

/-! ### A session that is given no other code -/

/-- A request gives a session a code. -/
structure GivesCode (r : Request) (answer : Response) (id : Text) : Prop where
  isFor : r.IsFor .authorizationCode
  named : r.sessionId = some id
  granted : answer.status = 200

/-- A request that gives the session no code lets it keep what it has with its token. -/
theorem BookStep.keepsGrant {i : Issuer} {r : Request} {st : State} {answer : Response} {b : Book}
    {id : Text} {s : Session} (kept : st.book.Kept i.plan) (unrepeated : b.Unrepeated i.plan)
    (step : BookStep i r st answer b) (hs : st.book.store.get? id = some s)
    (ht : s.accessToken.isSome) (other : ¬ GivesCode r answer id) :
    ∃ s', b.store.get? id = some s' ∧ s.KeepsGrant s' := by
  cases step with
  | idle _ _ => exact ⟨s, hs, KeepsGrant.refl s⟩
  | drawn _ _ _ => exact ⟨s, hs, KeepsGrant.refl s⟩
  | opened _ _ q =>
    refine ⟨s, ?_, KeepsGrant.refl s⟩
    have hids := (Book.drawn_save (st.book.newSession i.plan st.now q).1 q
      (st.book.newSession i.plan st.now q).2).1 ▸ unrepeated.ids
    rw [Book.store_save, Book.store_newSession, Store.get?_put_of_ne]
    · exact hs
    · exact Book.Distinct.next_ne hids (kept.ids id s hs)
  | code given t isFor named found =>
    have hne : given ≠ id := by
      rintro rfl
      exact other ⟨isFor, named, rfl⟩
    refine ⟨s, ?_, KeepsGrant.refl s⟩
    show (st.book.store.put _).get? id = some s
    rw [Store.get?_put_of_ne]
    · exact hs
    · show t.id ≠ id
      rw [kept.keyed given t found]
      exact hne
  | exchanged _ _ _ step =>
    rcases step.store_cases kept with hsame | ⟨q, t, t', accepts, overwrites, hstore⟩
    · exact ⟨s, hsame ▸ hs, KeepsGrant.refl s⟩
    · rw [hstore, Store.get?_withSession]
      by_cases heq : t.id = id
      · subst heq
        -- its token can be revoked, but a token cannot be bound to it once more
        have hsame : t = s := Option.some.inj ((accepts.stored kept).1.symm.trans hs)
        subst hsame
        rw [if_pos rfl]
        cases overwrites with
        | revoked _ => exact ⟨_, rfl, ⟨rfl, rfl, rfl, fun _ => rfl⟩, rfl, rfl, rfl⟩
        | bound free =>
          rw [free] at ht
          cases ht
      · rw [if_neg heq]
        exact ⟨s, hs, KeepsGrant.refl s⟩

/-- A request that gives the session a code takes the old one out of the index. -/
theorem BookStep.gone_of_givesCode {i : Issuer} {r : Request} {st : State} {answer : Response}
    {b : Book} {id code : Text} {s : Session} (kept : st.book.Kept i.plan)
    (unrepeated : b.Unrepeated i.plan) (step : BookStep i r st answer b)
    (hs : st.book.store.get? id = some s) (hcode : s.code? = some code)
    (gives : GivesCode r answer id) : b.Gone i.plan code := by
  cases step with
  | idle _ denied => exact absurd gives.granted (denied gives.isFor)
  | drawn _ isFor _ => exact Endpoint.noConfusion (isFor.unique gives.isFor)
  | opened _ isFor _ => exact Endpoint.noConfusion (isFor.unique gives.isFor)
  | code given t _ named found =>
    have heq : given = id := Option.some.inj (named.symm.trans gives.named)
    subst heq
    have hsame : t = s := Option.some.inj (found.symm.trans hs)
    subst hsame
    exact Book.gone_issueCode kept unrepeated hs hcode
  | exchanged _ isFor _ _ => exact Endpoint.noConfusion (isFor.unique gives.isFor)

/-- A code that is gone does not come back. -/
theorem BookStep.gone {i : Issuer} {r : Request} {st : State} {answer : Response} {b : Book}
    {code : Text} (kept : st.book.Kept i.plan) (unrepeated : b.Unrepeated i.plan)
    (step : BookStep i r st answer b) (gone : st.book.Gone i.plan code) : b.Gone i.plan code := by
  refine ⟨gone.drawn.mono step.goesOn.secrets, ?_⟩
  cases step with
  | idle _ _ => exact gone.unindexed
  | drawn _ _ _ => exact gone.unindexed
  | opened _ _ q =>
    rw [Book.store_save, Book.store_newSession]
    exact Book.unindexed_put gone.unindexed nofun
  | code _ s _ _ _ =>
    refine Book.unindexed_put gone.unindexed fun hgiven => ?_
    have hne := Book.Distinct.next_ne unrepeated.secrets gone.drawn
    exact hne (Option.some.inj (code?_eq_some.1 hgiven).1)
  | exchanged _ _ _ step =>
    rcases step.store_cases kept with hsame | ⟨_, _, _, _, _, hstore⟩
    · rw [hsame]
      exact gone.unindexed
    · rw [hstore]
      exact gone.unindexed

/-! ### Along a run -/

/-- Among the events that follow a state, one gives the session a code. -/
def Reissues (i : Issuer) (id : Text) : State → List Event → Prop
  | _, [] => False
  | st, .request r :: events =>
    GivesCode r (i.handle r st).1 id ∨ Reissues i id (i.handle r st).2 events
  | st, e :: events => Reissues i id (i.after st e) events

theorem run_gone {i : Issuer} {st : State} (reachable : Reachable i st) {events : List Event}
    (unrepeated : (i.run st events).book.Unrepeated i.plan) {code : Text}
    (gone : st.book.Gone i.plan code) : (i.run st events).book.Gone i.plan code := by
  induction events generalizing st with
  | nil => exact gone
  | cons e events ih =>
    refine ih (.after e reachable) unrepeated ?_
    have hnext : (i.after st e).book.Unrepeated i.plan :=
      unrepeated.mono (run_draws i (i.after st e) events)
    cases e with
    | request r => exact (handle_step i r st).gone reachable.kept hnext gone
    | advance _ => exact gone
    | trail _ => exact gone
    | registry _ => exact gone

/-- Along a run without a new code for the session, it keeps what it has with its token. -/
theorem run_keepsGrant {i : Issuer} {st : State} (reachable : Reachable i st)
    {events : List Event} (unrepeated : (i.run st events).book.Unrepeated i.plan) {id : Text}
    {s : Session} (hs : st.book.store.get? id = some s) (ht : s.accessToken.isSome)
    (other : ¬ Reissues i id st events) :
    ∃ s', (i.run st events).book.store.get? id = some s' ∧ s.KeepsGrant s' := by
  induction events generalizing st s with
  | nil => exact ⟨s, hs, KeepsGrant.refl s⟩
  | cons e events ih =>
    -- what is not repeated at the end was not repeated on the way
    have hnext : (i.after st e).book.Unrepeated i.plan :=
      unrepeated.mono (run_draws i (i.after st e) events)
    cases e with
    | request r =>
      obtain ⟨s', hs', hk⟩ := (handle_step i r st).keepsGrant reachable.kept hnext hs ht
        fun h => other (Or.inl h)
      obtain ⟨s'', hs'', hk'⟩ := ih (.after (.request r) reachable) unrepeated hs'
        (hk.accessToken ▸ ht) fun h => other (Or.inr h)
      exact ⟨s'', hs'', hk.trans hk'⟩
    | advance seconds => exact ih (.after (.advance seconds) reachable) unrepeated hs ht other
    | trail found => exact ih (.after (.trail found) reachable) unrepeated hs ht other
    | registry registered =>
      exact ih (.after (.registry registered) reachable) unrepeated hs ht other

/-- Along a run with a new code for the session, its old code is lost. -/
theorem run_gone_of_reissues {i : Issuer} {st : State} (reachable : Reachable i st)
    {events : List Event} (unrepeated : (i.run st events).book.Unrepeated i.plan)
    {id code : Text} {s : Session} (hs : st.book.store.get? id = some s)
    (ht : s.accessToken.isSome) (hcode : s.code? = some code) (reissues : Reissues i id st events) :
    (i.run st events).book.Gone i.plan code := by
  induction events generalizing st s with
  | nil => exact reissues.elim
  | cons e events ih =>
    have hnext : (i.after st e).book.Unrepeated i.plan :=
      unrepeated.mono (run_draws i (i.after st e) events)
    cases e with
    | request r =>
      by_cases gives : GivesCode r (i.handle r st).1 id
      · -- from here on the code is gone
        exact run_gone (.after (.request r) reachable) unrepeated
          ((handle_step i r st).gone_of_givesCode reachable.kept hnext hs hcode gives)
      · obtain ⟨s', hs', hk⟩ := (handle_step i r st).keepsGrant reachable.kept hnext hs ht gives
        refine ih (.after (.request r) reachable) unrepeated hs' (hk.accessToken ▸ ht) ?_
          (reissues.resolve_left gives)
        rw [code?_eq_some, hk.authorizationCode]
        exact code?_eq_some.1 hcode
    | advance seconds =>
      exact ih (.after (.advance seconds) reachable) unrepeated hs ht hcode reissues
    | trail found => exact ih (.after (.trail found) reachable) unrepeated hs ht hcode reissues
    | registry registered =>
      exact ih (.after (.registry registered) reachable) unrepeated hs ht hcode reissues

/-! ### Replays -/

/-- What an answered redemption did: the session that the code leads to has the token. -/
theorem redeemed {i : Issuer} {st : State} (reachable : Reachable i st) {r : Request}
    (isToken : r.IsFor .token) (granted : (i.handle r st).1.status = 200) {q : TokenRequest}
    (presents : TokenRequest.ofPayload (.bytes r.body) = .ok q) {s : Session}
    (leads : st.book.store.getByCode? q.code = some s) :
    (i.handle r st).2.book = i.bound st s s ∧ s.id ≠ [] ∧ s.code? = some q.code := by
  obtain ⟨id, hid, hs, hcode⟩ := reachable.kept.sound.getByCode? leads
  have hkey : s.id = id := reachable.kept.keyed id s hs
  rw [handle_token isToken] at granted
  obtain ⟨v, hv, -, hstate⟩ := respond_ok granted
  rw [handle_token isToken, hstate]
  have hstep := exchange_step i (.bytes r.body) r.clientAddress st
  generalize i.exchange (.bytes r.body) r.clientAddress st = result at hstep hv
  cases hstep with
  | refused _ _ _ => cases hv
  | replayed _ _ _ _ _ _ _ _ => cases hv
  | missing _ _ _ _ => cases hv
  | unrecorded _ _ _ _ _ _ _ _ => cases hv
  | issued q' s' stored accepts binds _ _ _ =>
    have hq : q' = q := Except.ok.inj (accepts.form.symm.trans presents)
    subst hq
    have hs' : s' = s :=
      Option.some.inj ((Book.sessionOfCode_ok accepts.code).2.1.symm.trans leads)
    subst hs'
    obtain rfl := accepts.eq_of_binds reachable.kept binds
    exact ⟨rfl, hkey ▸ hid, hcode⟩

/-- Whether a client stands behind a request depends on the client and the redirect URI only. -/
theorem check_congr {q : TokenRequest} {registry : Registry} {now : Int} {s s' : Session}
    (hclient : s'.clientId = s.clientId) (hredirect : s'.redirectUri = s.redirectUri)
    (h : q.check registry now s = .ok ()) : q.check registry now s' = .ok () := by
  unfold TokenRequest.check at h ⊢
  rw [hclient, hredirect]
  exact h

/-- A code that is gone is answered like one that never was. -/
theorem answer_of_gone {i : Issuer} {st : State} {r : Request} (isToken : r.IsFor .token)
    {q : TokenRequest} (presents : TokenRequest.ofPayload (.bytes r.body) = .ok q)
    (gone : st.book.Gone i.plan q.code) :
    (i.handle r st).1 = unknownAnswer ∧ (i.handle r st).2.book = st.book := by
  have hexchange := exchange_of_unknown presents
    (Store.getByCode?_of_unindexed gone.unindexed) i r.clientAddress
  constructor
  · rw [handle_token isToken, hexchange]
    rfl
  · rw [book_handle_token isToken, hexchange]

/-- **When a replay is answered as one.** A code was redeemed; later it is presented again, with
an assertion that is valid for the client of its session and with the session's redirect URI.
Whatever happened in between, the answer is that of a replay and the token is left revoked if and
only if the session was given no other code. -/
theorem replay_answered_iff {i : Issuer} {st : State} (reachable : Reachable i st)
    {first : Request} (isToken : first.IsFor .token)
    (granted : (i.handle first st).1.status = 200) {q : TokenRequest}
    (presents : TokenRequest.ofPayload (.bytes first.body) = .ok q) {s : Session}
    (leads : st.book.store.getByCode? q.code = some s) {between : List Event} {later : State}
    (reached : i.run (i.handle first st).2 between = later)
    (unrepeated : later.book.Unrepeated i.plan) {again : Request} (isToken' : again.IsFor .token)
    {q' : TokenRequest} (presents' : TokenRequest.ofPayload (.bytes again.body) = .ok q')
    (same : q'.code = q.code) (valid : q'.check later.registry later.now s = .ok ()) :
    ((i.handle again later).1 = replayAnswer ∧
        ∃ s', (i.handle again later).2.book.store.get? s.id = some s' ∧
          s'.accessToken = some (st.book.nextToken i.plan).authorizationValue ∧
          s'.tokenRevoked = true) ↔
      ¬ Reissues i s.id (i.handle first st).2 between := by
  obtain ⟨hbook, hid, hcode⟩ := redeemed reachable isToken granted presents leads
  subst reached
  have hnext : Reachable i (i.handle first st).2 := reachable.handle first
  have hlater := hnext.run between
  -- the session as the redemption left it
  have hs : (i.handle first st).2.book.store.get? s.id =
      some (Book.withToken i.plan st.now (st.book.nextToken i.plan) s) := by
    rw [hbook]
    show (st.book.store.withSession s.id _).get? s.id = _
    rw [Store.get?_withSession, if_pos rfl]
  constructor
  · rintro ⟨hanswer, -⟩ reissues
    -- the code would be gone, and be answered like one that never was
    have gone := run_gone_of_reissues hnext unrepeated hs rfl hcode reissues
    rw [(answer_of_gone isToken' presents' (same ▸ gone)).1] at hanswer
    exact absurd hanswer (by decide)
  · intro other
    obtain ⟨s', hs', hk⟩ := run_keepsGrant hnext unrepeated hs rfl other
    have hkey : s'.id = s.id := hlater.kept.keyed s.id s' hs'
    have hcode' : s'.code? = some q.code := by
      rw [code?_eq_some, hk.authorizationCode]
      exact code?_eq_some.1 hcode
    have ht : s'.accessToken = some (st.book.nextToken i.plan).authorizationValue :=
      hk.accessToken
    have hspent : s'.accessToken.isSome := by
      rw [ht]
      rfl
    -- the index still leads from the code to the session
    have hleads :
        (i.run (i.handle first st).2 between).book.store.getByCode? q'.code = some s' := by
      rw [same]
      exact Store.getByCode?_eq_some.2
        ⟨s.id, hlater.complete unrepeated s.id s' q.code hs' hcode', hid, hs'⟩
    have accepts : Accepts (.bytes again.body) (i.run (i.handle first st).2 between) q' s' :=
      ⟨presents', Book.sessionOfCode_of_bound (same ▸ (code?_eq_some.1 hcode).2) hleads hspent,
        check_congr hk.clientId hk.redirectUri valid⟩
    obtain ⟨hrefused, hstore⟩ := exchange_of_spent hlater.kept accepts hspent again.clientAddress
    rw [book_handle_token isToken', handle_token isToken', hstore, hkey, Store.get?_withSession,
      if_pos rfl]
    refine ⟨?_, _, rfl, ht, rfl⟩
    generalize i.exchange (.bytes again.body) again.clientAddress
      (i.run (i.handle first st).2 between) = result at hrefused
    rcases result with ⟨outcome, st'⟩
    dsimp only at hrefused
    subst hrefused
    exact answer_replayed _ 200 s'.id st'

namespace OneClient

/-- Ids and secrets of different lengths are different. -/
theorem unrepeated (b : Book) : b.Unrepeated issuer.plan := by
  have hdistinct : ∀ (c : CodePoint) (count : Nat),
      Book.Distinct (fun n => List.replicate n c) count := by
    intro c count j k _ _ _ _ heq
    simpa using congrArg List.length heq
  exact ⟨hdistinct 'a' _, hdistinct 'A' _⟩

/-- The state once the first code is exchanged. -/
def spent : State := issuer.after coded (.request presenting)

/-- Presenting the first code changes nothing but the book, the trail and the counts. -/
theorem handle_presenting {st : State} (kept : st.book.Kept issuer.plan) {trail : Audit.Trail}
    {counters : Counters} (h : st = ⟨5, registry, codedBook, trail, counters⟩) :
    ∃ trail' counters', (issuer.handle presenting st).2 =
      ⟨5, registry, redeemedBook, trail', counters'⟩ := by
  have hbook := book_presenting kept h
  have hsame := handle_sameSetting issuer presenting st
  rw [h] at hbook hsame ⊢
  generalize (issuer.handle presenting ⟨5, registry, codedBook, trail, counters⟩).2 = st
    at hbook hsame
  obtain ⟨now, registered, book, trail', counters'⟩ := st
  obtain ⟨rfl, rfl⟩ := hsame
  dsimp only at hbook
  rw [hbook]
  exact ⟨trail', counters', rfl⟩

theorem spent_eq : ∃ trail counters, spent = ⟨5, registry, redeemedBook, trail, counters⟩ := by
  obtain ⟨trail, counters, -, hcoded⟩ := coded_eq
  unfold spent
  rw [after_request]
  exact handle_presenting reachable_coded.kept hcoded

theorem granted_presenting : (issuer.handle presenting coded).1.status = 200 := by
  obtain ⟨trail, counters, happendable, hcoded⟩ := coded_eq
  obtain ⟨trail', hrecorded, -⟩ := Audit.Trail.publish_of_appendable happendable
    (isWritable_event (s := codedSession) rfl rfl rfl rfl rfl .accessTokenIssued 5)
  obtain ⟨-, hresult⟩ := exchange_of_free reachable_coded.kept
    (accepts_presenting hcoded) rfl presenting.clientAddress
  have hwritable : isWritable (shown (coded.book.nextToken issuer.plan).response) = true := by
    rw [hcoded]
    show isWritable (shown (codedBook.nextToken issuer.plan).response) = true
    decide
  rw [handle_token ⟨rfl, rfl⟩]
  generalize issuer.exchange (.bytes presenting.body) presenting.clientAddress coded = result
    at hresult
  rcases result with ⟨outcome, st⟩
  rcases hresult with ⟨f, -, -, hfailed⟩ | ⟨hok, -⟩
  · have hpublished : (coded.trail.publish issuer.source .accessTokenIssued codedSession
        presenting.clientAddress [] coded.now).1 = .ok () := by
      rw [hcoded]
      exact congrArg Prod.fst hrecorded
    rw [hpublished] at hfailed
    cases hfailed
  · dsimp only at hok
    subst hok
    rw [respond_writable hwritable]

/-- Presented once more, the code is answered as a replay, also where the trail was removed in
between. -/
theorem second_presentation_is_replay :
    (issuer.handle presenting coded).1.status = 200 ∧
      (issuer.handle presenting (issuer.run spent [.trail .missing])).1 = replayAnswer ∧
      ∃ s, (issuer.handle presenting (issuer.run spent [.trail .missing])).2.book.store.get? "a" =
          some s ∧
        s.accessToken = some ("Bearer AA" : Text) ∧ s.tokenRevoked = true := by
  obtain ⟨trail, counters, -, hcoded⟩ := coded_eq
  obtain ⟨trail', counters', hspent⟩ := spent_eq
  have hleads : coded.book.store.getByCode? exchangeForm.code = some codedSession := by
    rw [hcoded]
    rfl
  have hvalid : exchangeForm.check (issuer.run spent [.trail .missing]).registry
      (issuer.run spent [.trail .missing]).now codedSession = .ok () := by
    rw [hspent]
    exact check_presenting
  have hreached : issuer.run (issuer.handle presenting coded).2 [.trail .missing] =
      issuer.run spent [.trail .missing] := by
    unfold spent
    rw [after_request]
  have hreplay := replay_answered_iff reachable_coded ⟨rfl, rfl⟩ granted_presenting
    ofPayload_presenting hleads hreached (unrepeated _) ⟨rfl, rfl⟩ ofPayload_presenting rfl hvalid
  obtain ⟨hanswer, s, hs, ht, hrevoked⟩ := hreplay.2 fun reissues => reissues
  refine ⟨granted_presenting, hanswer, s, hs, ?_, hrevoked⟩
  rw [ht, hcoded]
  rfl

/-- The state once the session with the spent code is given another code. -/
def reissued : State := issuer.after spent (.request asking)

/-- **A replay is not answered as one once the session was given another code**: it is denied like
a code that never was, and the token stays good. -/
theorem new_code_hides_replay :
    Reachable issuer coded ∧ (issuer.handle presenting coded).1.status = 200 ∧
      (issuer.handle asking spent).1.status = 200 ∧
      exchangeForm.check reissued.registry reissued.now codedSession = .ok () ∧
      (issuer.handle presenting reissued).1 = unknownAnswer ∧
      (issuer.handle presenting reissued).1 ≠ replayAnswer ∧
      ∃ s, (issuer.handle presenting reissued).2.book.store.get? "a" = some s ∧
        s.accessToken = some ("Bearer AA" : Text) ∧ s.tokenRevoked = false := by
  obtain ⟨trail, counters, hspent⟩ := spent_eq
  have hs : spent.book.store.get? "a" = some redeemedSession := by
    rw [hspent]
    rfl
  have hlive : spent.now ≤ redeemedSession.expiresAt := by
    rw [hspent]
    show (5 : Int) ≤ redeemedSession.expiresAt
    decide
  have hgiven := handle_authorizationCode (i := issuer) (r := asking) ⟨rfl, rfl⟩ rfl (by decide)
    hs hlive
  have hreissued : reissued = ⟨5, registry,
      (redeemedBook.issueCode issuer.plan 5 redeemedSession).2, trail, counters⟩ := by
    unfold reissued
    rw [after_request, hgiven, hspent]
  have hgone : (redeemedBook.issueCode issuer.plan 5 redeemedSession).2.Gone issuer.plan
      exchangeForm.code := ⟨⟨1, by decide, by decide, rfl⟩, by decide⟩
  have gone : reissued.book.Gone issuer.plan exchangeForm.code := by
    rw [hreissued]
    exact hgone
  obtain ⟨hanswer, hbook⟩ := answer_of_gone (i := issuer) (r := presenting) ⟨rfl, rfl⟩
    ofPayload_presenting gone
  refine ⟨reachable_coded, granted_presenting, ?_, ?_, hanswer, ?_, ?_⟩
  · rw [hgiven]
  · rw [hreissued]
    exact check_presenting
  · rw [hanswer]
    decide
  · rw [hbook, hreissued]
    exact ⟨_, rfl, by decide, by decide⟩

end OneClient

end Issuer

end Issuance
