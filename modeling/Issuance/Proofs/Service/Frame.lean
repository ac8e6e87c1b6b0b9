import Issuance.Proofs.Service.Opening

/-!
# Issuance.Proofs.Service.Frame

**What a request does to one stored session.** `handle_stored` looks at any session in the store
after a request and says where it comes from: the request opened it, or it was stored before, and
then it is as it was, has been given a code, or has had its token bound or revoked. From this it
follows that sessions are permanent: none is ever removed, and apart from its code and its token
each stays as it was opened (`run_stored`).
-/

namespace Issuance

namespace Session

/-- A session as it was when it was opened, before it was given any code or token. -/
def asOpened (s : Session) : Session :=
  { s with
    authorizationCode := none
    codeExpiresAt := none
    accessToken := none
    tokenExpiresAt := none
    tokenIssuedAt := none
    tokenRevoked := false }

theorem asOpened_keepToken (previous s : Session) :
    (Store.keepToken previous s).asOpened = s.asOpened := by
  unfold Store.keepToken
  cases previous.accessToken <;> rfl

end Session

namespace Issuer

open Http Session

/-! ### Giving a code -/

/-- A session that is given a code is live, and it is the one that is named. -/
theorem GivesCode.inversion {i : Issuer} {r : Request} {st : State} {id : Text}
    (h : GivesCode r (i.handle r st).1 id) :
    ∃ s, id ≠ [] ∧ st.book.store.get? id = some s ∧ st.now ≤ s.expiresAt ∧
      i.handle r st =
        (⟨200, .text []⟩, { st with book := (st.book.issueCode i.plan st.now s).2 }) := by
  have hstep := code_step i st h.isFor
  generalize i.handle r st = result at h hstep
  cases hstep with
  | refused f => exact absurd h.granted f.status_ne_ok
  | given id' s named filled found live =>
    obtain rfl : id' = id := Option.some.inj (named.symm.trans h.named)
    exact ⟨s, filled, found, live, rfl⟩

/-! ### Where a stored session comes from -/

/-- What a request can make of a stored session. -/
inductive SessionStep (i : Issuer) (r : Request) (st : State) (s : Session) : Session → Prop
  | idle : SessionStep i r st s s
  | coded (gives : GivesCode r (i.handle r st).1 s.id) (live : st.now ≤ s.expiresAt) :
      SessionStep i r st s (s.withCode (i.generators.secret (st.book.secretsDrawn + 1))
        (st.now + i.settings.authorizationCodeTtl))
  | exchanged (isFor : r.IsFor .token) (q : TokenRequest)
      (accepts : Accepts (.bytes r.body) st q s) (s' : Session)
      (overwrites : Overwrites i st s s') : SessionStep i r st s s'

/-- A request opens the session that is stored after it under an id: it is the one of a valid
request, and the id was drawn for it. -/
structure Opens (i : Issuer) (r : Request) (st : State) (q : SessionRequest) (id : Text)
    (s : Session) : Prop where
  isFor : r.IsFor .session
  valid : (i.validator.validate st.registry st.now (.bytes r.body) r.clientAddress).result = .ok q
  drawn : id = i.generators.sessionId (st.book.idsDrawn + 1)
  counted : (i.handle r st).2.book.idsDrawn = st.book.idsDrawn + 1
  stored : (i.handle r st).2.book.store.get? id = some s
  asOpened : s.asOpened = (st.book.newSession i.plan st.now q).1

/-- After a request for a session, a stored session was stored before, or has just been opened. -/
theorem stored_of_opening {i : Issuer} {st : State} {r : Request} (isFor : r.IsFor .session)
    {id : Text} {s : Session} (hs : (i.handle r st).2.book.store.get? id = some s) :
    st.book.store.get? id = some s ∨ ∃ q, Opens i r st q id s := by
  have hstored := hs
  have hbook : (i.handle r st).2.book =
      (i.openSession (.bytes r.body) r.clientAddress st).2.book := by
    rw [handle_opening isFor, book_respond]
  have hstep := opening_step i (.bytes r.body) r.clientAddress st
  rw [hbook] at hs
  generalize i.openSession (.bytes r.body) r.clientAddress st = result at hs hbook hstep
  cases hstep with
  | refused _ _ _ _ => exact Or.inl hs
  | unrecorded _ _ _ _ _ _ _ => exact Or.inl hs
  | opened q valid _ _ _ _ =>
    dsimp only at hs
    rw [Book.store_save, Book.store_newSession, Store.get?_put] at hs
    split at hs
    · rename_i hid
      have hcounted : (i.handle r st).2.book.idsDrawn = st.book.idsDrawn + 1 := by
        rw [hbook]
        exact (Book.drawn_save _ _ _).1
      refine Or.inr ⟨q, isFor, valid, hid.symm, hcounted, hstored, ?_⟩
      -- an earlier session with this id leaves its token only, which is not part of the opening
      rw [← Option.some.inj hs]
      split
      · rfl
      · exact asOpened_keepToken _ _
    · exact Or.inl hs

theorem stored_of_code {i : Issuer} {st : State} (kept : st.book.Kept i.plan) {r : Request}
    (isFor : r.IsFor .authorizationCode) {id : Text} {s' : Session}
    (hs' : (i.handle r st).2.book.store.get? id = some s') :
    ∃ s, st.book.store.get? id = some s ∧ SessionStep i r st s s' := by
  have hstep := code_step i st isFor
  generalize hresult : i.handle r st = result at hs' hstep
  cases hstep with
  | refused _ =>
    rw [book_countFailure] at hs'
    exact ⟨s', hs', .idle⟩
  | given given s named _ found live =>
    obtain rfl : s.id = given := kept.keyed given s found
    dsimp only at hs'
    rw [Book.get?_issueCode found] at hs'
    split at hs'
    · rename_i hid
      subst hid
      rw [← Option.some.inj hs']
      exact ⟨s, found, .coded ⟨isFor, named, by rw [hresult]⟩ live⟩
    · exact ⟨s', hs', .idle⟩

theorem stored_of_token {i : Issuer} {st : State} (kept : st.book.Kept i.plan) {r : Request}
    (isFor : r.IsFor .token) {id : Text} {s' : Session}
    (hs' : (i.handle r st).2.book.store.get? id = some s') :
    ∃ s, st.book.store.get? id = some s ∧ SessionStep i r st s s' := by
  rw [book_handle_token isFor] at hs'
  rcases (exchange_step i (.bytes r.body) r.clientAddress st).store_cases kept with
    hsame | ⟨q, s, t, accepts, overwrites, hstore⟩
  · rw [hsame] at hs'
    exact ⟨s', hs', .idle⟩
  · rw [hstore, Store.get?_withSession] at hs'
    split at hs'
    · rename_i hid
      subst hid
      rw [← Option.some.inj hs']
      exact ⟨s, (accepts.stored kept).1, .exchanged isFor q accepts t overwrites⟩
    · exact ⟨s', hs', .idle⟩

/-- Three endpoints write into the book; a request for none of them leaves it as it is. -/
theorem book_handle_of_other {i : Issuer} {st : State} {r : Request}
    (notSession : ¬ r.IsFor .session) (notCode : ¬ r.IsFor .authorizationCode)
    (notToken : ¬ r.IsFor .token) : (i.handle r st).2.book = st.book := by
  have hstep := handle_step i r st
  generalize (i.handle r st).1 = answer, (i.handle r st).2.book = b at hstep
  cases hstep with
  | idle _ _ => rfl
  | drawn _ isFor _ => exact absurd isFor notSession
  | opened _ isFor _ => exact absurd isFor notSession
  | code _ _ isFor _ _ => exact absurd isFor notCode
  | exchanged _ isFor _ _ => exact absurd isFor notToken

/-- Where a session comes from that is stored after a request. -/
theorem handle_stored {i : Issuer} {st : State} (kept : st.book.Kept i.plan) {r : Request}
    {id : Text} {s' : Session} (hs' : (i.handle r st).2.book.store.get? id = some s') :
    (∃ s, st.book.store.get? id = some s ∧ SessionStep i r st s s') ∨
      ∃ q, Opens i r st q id s' := by
  by_cases hsession : r.IsFor .session
  · rcases stored_of_opening hsession hs' with hs | hopens
    · exact Or.inl ⟨s', hs, .idle⟩
    · exact Or.inr hopens
  by_cases hcode : r.IsFor .authorizationCode
  · exact Or.inl (stored_of_code kept hcode hs')
  by_cases htoken : r.IsFor .token
  · exact Or.inl (stored_of_token kept htoken hs')
  · rw [book_handle_of_other hsession hcode htoken] at hs'
    exact Or.inl ⟨s', hs', .idle⟩

/-! ### Sessions are permanent -/

theorem isSome_put {store : Store} {id : Text} (h : (store.get? id).isSome) (s : Session) :
    ((store.put s).get? id).isSome := by
  rw [Store.get?_put]
  split
  · rfl
  · exact h

theorem isSome_withSession {store : Store} {id : Text} (h : (store.get? id).isSome) (other : Text)
    (s : Session) : ((store.withSession other s).get? id).isSome := by
  rw [Store.get?_withSession]
  split
  · rfl
  · exact h

/-- No request removes a session. -/
theorem handle_keepsStored {i : Issuer} {st : State} (kept : st.book.Kept i.plan) (r : Request)
    (id : Text) (h : (st.book.store.get? id).isSome) :
    ((i.handle r st).2.book.store.get? id).isSome := by
  have hstep := handle_step i r st
  generalize (i.handle r st).1 = answer, (i.handle r st).2.book = b at hstep ⊢
  cases hstep with
  | idle _ _ => exact h
  | drawn _ _ _ => exact h
  | opened _ _ q =>
    rw [Book.store_save, Book.store_newSession]
    exact isSome_put h _
  | code _ _ _ _ _ => exact isSome_put h _
  | exchanged _ _ _ step =>
    rcases step.store_cases kept with hsame | ⟨_, _, _, _, _, hstore⟩
    · rw [hsame]
      exact h
    · rw [hstore]
      exact isSome_withSession h _ _

/-- As long as ids do not repeat, a session is opened under an id that no session has. -/
theorem Opens.fresh {i : Issuer} {r : Request} {st : State} {q : SessionRequest} {id : Text}
    {s : Session} (h : Opens i r st q id s) (kept : st.book.Kept i.plan)
    (unrepeated : (i.handle r st).2.book.Unrepeated i.plan) : st.book.store.get? id = none := by
  cases hs : st.book.store.get? id with
  | none => rfl
  | some t =>
    have hids := unrepeated.ids
    rw [h.counted] at hids
    exact absurd h.drawn.symm (hids.next_ne (kept.ids id t hs))

/-- What becomes of a stored session in an event, as long as ids do not repeat. -/
theorem after_stored {i : Issuer} {st : State} (kept : st.book.Kept i.plan) {e : Event}
    (unrepeated : (i.after st e).book.Unrepeated i.plan) {id : Text} {s : Session}
    (hs : st.book.store.get? id = some s) :
    ∃ s', (i.after st e).book.store.get? id = some s' ∧
      (s' = s ∨ ∃ r, e = .request r ∧ SessionStep i r st s s') := by
  cases e with
  | request r =>
    obtain ⟨s', hs'⟩ := Option.isSome_iff_exists.1
      (handle_keepsStored kept r id (by rw [hs]; rfl))
    refine ⟨s', hs', Or.inr ⟨r, rfl, ?_⟩⟩
    rcases handle_stored kept hs' with ⟨t, ht, hstep⟩ | ⟨q, opens⟩
    · rwa [← Option.some.inj (ht.symm.trans hs)]
    · rw [opens.fresh kept unrepeated] at hs
      cases hs
  | advance _ => exact ⟨s, hs, Or.inl rfl⟩
  | trail _ => exact ⟨s, hs, Or.inl rfl⟩
  | registry _ => exact ⟨s, hs, Or.inl rfl⟩

theorem Overwrites.asOpened {i : Issuer} {st : State} {s s' : Session}
    (h : Overwrites i st s s') : s'.asOpened = s.asOpened := by
  cases h <;> rfl

/-- Whatever a request makes of a session, it stays as it was opened. -/
theorem SessionStep.asOpened {i : Issuer} {r : Request} {st : State} {s s' : Session}
    (h : SessionStep i r st s s') : s'.asOpened = s.asOpened := by
  cases h with
  | idle => rfl
  | coded _ _ => rfl
  | exchanged _ _ _ _ overwrites => exact overwrites.asOpened

/-- Along a run a session stays in the store, as it was opened. -/
theorem run_stored {i : Issuer} {st : State} (reachable : Reachable i st) {events : List Event}
    (unrepeated : (i.run st events).book.Unrepeated i.plan) {id : Text} {s : Session}
    (hs : st.book.store.get? id = some s) :
    ∃ s', (i.run st events).book.store.get? id = some s' ∧ s'.asOpened = s.asOpened := by
  induction events generalizing st s with
  | nil => exact ⟨s, hs, rfl⟩
  | cons e events ih =>
    obtain ⟨s', hs', hstep⟩ := after_stored reachable.kept
      (unrepeated.mono (run_draws i (i.after st e) events)) hs
    obtain ⟨s'', hs'', hsame⟩ := ih (.after e reachable) unrepeated hs'
    refine ⟨s'', hs'', hsame.trans ?_⟩
    rcases hstep with rfl | ⟨r, -, hstep⟩
    · rfl
    · exact hstep.asOpened

/-- Registrations stay as they are while nobody is registered. -/
theorem registry_run (i : Issuer) {st : State} {events : List Event}
    (fixed : ∀ e ∈ events, ∀ registered, e ≠ .registry registered) :
    (i.run st events).registry = st.registry := by
  induction events generalizing st with
  | nil => rfl
  | cons e events ih =>
    refine (ih fun e he => fixed e (List.mem_cons_of_mem _ he)).trans ?_
    cases e with
    | request r => exact (handle_sameSetting i r st).registry
    | advance _ => rfl
    | trail _ => rfl
    | registry registered => exact absurd rfl (fixed _ List.mem_cons_self registered)

/-- Every session in the store was opened by a request in the run, and is as it was opened. -/
theorem exists_opens {i : Issuer} {now : Int} {registry : Registry} {events : List Event}
    {id : Text} {s : Session}
    (hs : (i.run (.initial now registry) events).book.store.get? id = some s) :
    ∃ earlier opening later q, events = earlier ++ .request opening :: later ∧
      ∃ s₀, Opens i opening (i.run (.initial now registry) earlier) q id s₀ ∧
        s.asOpened = s₀.asOpened := by
  -- from the last event back to the one that opened the session
  induction events using List.reverseRecOn generalizing s with
  | nil => cases hs
  | append_singleton events e ih =>
    have hlater : ∀ {s'}, (i.run (.initial now registry) events).book.store.get? id = some s' →
        s.asOpened = s'.asOpened →
        ∃ earlier opening later q, events ++ [e] = earlier ++ .request opening :: later ∧
          ∃ s₀, Opens i opening (i.run (.initial now registry) earlier) q id s₀ ∧
            s.asOpened = s₀.asOpened := by
      intro s' hs' hsame
      obtain ⟨earlier, opening, later, q, rfl, s₀, opens, hopened⟩ := ih hs'
      exact ⟨earlier, opening, later ++ [e], q, by simp, s₀, opens, hsame.trans hopened⟩
    rw [run_append] at hs
    cases e with
    | advance _ => exact hlater hs rfl
    | trail _ => exact hlater hs rfl
    | registry _ => exact hlater hs rfl
    | request r =>
      have kept := ((Reachable.initial (i := i) now registry).run events).kept
      rcases handle_stored kept hs with ⟨s', hs', hstep⟩ | ⟨q, opens⟩
      · exact hlater hs' hstep.asOpened
      · exact ⟨events, r, [], q, rfl, s, opens, rfl⟩

end Issuer

end Issuance
