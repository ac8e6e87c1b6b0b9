import Issuance.Proofs.Service.Authorization

/-!
# Issuance.Proofs.Service.Expiry

**Expired sessions are frozen.** Every operation that could change a session looks at its expiry
first, but for one: a code that is spent is looked up whatever the time, so that its second
redemption is seen for what it is. So all that is left to happen to an expired session is that its
token is revoked, where it has one (`SessionStep.freezes`), and as long as the clock is not turned
back this is so for good (`run_freezes`). Nor is its code handed out any more: an answer that has a
code has that of a live session, and no two sessions have the same (`answer_ne_grant`).

Together with the frame of the requests this makes `sessions_permanent_and_frozen`.
-/

namespace Issuance

namespace Session

/-- What can happen to an expired session: nothing, or that the token it has is revoked. -/
def Freezes (s s' : Session) : Prop :=
  s' = s ∨ s.accessToken.isSome ∧ s' = { s with tokenRevoked := true }

theorem Freezes.trans {s s' s'' : Session} (h : s.Freezes s') (h' : s'.Freezes s'') :
    s.Freezes s'' := by
  rcases h with rfl | ⟨ht, rfl⟩
  · exact h'
  · rcases h' with rfl | ⟨-, rfl⟩
    · exact Or.inr ⟨ht, rfl⟩
    · exact Or.inr ⟨ht, rfl⟩

theorem Freezes.expiresAt {s s' : Session} (h : s.Freezes s') : s'.expiresAt = s.expiresAt := by
  rcases h with rfl | ⟨-, rfl⟩ <;> rfl

theorem Freezes.authorizationCode {s s' : Session} (h : s.Freezes s') :
    s'.authorizationCode = s.authorizationCode := by
  rcases h with rfl | ⟨-, rfl⟩ <;> rfl

namespace Store

/-- Where the index has every code, no two sessions have the same. -/
theorem Complete.id_unique {st : Store} (h : st.Complete) {id id' code : Text} {s s' : Session}
    (hs : st.get? id = some s) (hcode : s.code? = some code) (hs' : st.get? id' = some s')
    (hcode' : s'.code? = some code) : id = id' :=
  Option.some.inj ((h id s code hs hcode).symm.trans (h id' s' code hs' hcode'))

end Store

end Session

namespace Issuer

open Http Session

/-! ### One request -/

theorem SessionStep.freezes {i : Issuer} {r : Request} {st : State} {s s' : Session}
    (h : SessionStep i r st s s') (expired : s.expiresAt < st.now) : s.Freezes s' := by
  cases h with
  | idle => exact Or.inl rfl
  | coded _ live => exact absurd live (Int.not_le.2 expired)
  | exchanged _ q accepts _ overwrites =>
    cases overwrites with
    | revoked spent => exact Or.inr ⟨spent, rfl⟩
    | bound free =>
      -- a session without a token is found by its code only while it is live
      obtain ⟨-, -, hlive⟩ := Book.sessionOfCode_ok accepts.code
      exact absurd (hlive free).1 (Int.not_le.2 expired)

theorem code_eq_of_response_eq {g g' : AuthorizationRequest.Grant}
    (h : g.response = g'.response) : g.code = g'.code := by
  simp only [AuthorizationRequest.Grant.response, Json.obj.injEq, List.cons.injEq, Prod.mk.injEq,
    Json.str.injEq] at h
  exact h.1.2.1.2

/-- The code of an expired session is not handed out. -/
theorem answer_ne_grant {i : Issuer} (safe : i.generators.UrlSafe) {st : State}
    (reachable : Reachable i st) (unrepeated : st.book.Unrepeated i.plan) {id : Text}
    {s : Session} (hs : st.book.store.get? id = some s) (expired : s.expiresAt < st.now)
    {g : AuthorizationRequest.Grant} (hcode : s.authorizationCode = some g.code) (r : Request) :
    (i.handle r st).1 ≠ ⟨200, .json g.response⟩ := by
  intro hanswer
  have isFor := isFor_of_grant hanswer
  obtain ⟨t, _, g', _, _, hfound, grants, -, hhandle⟩ :=
    sent_of_status isFor (by rw [hanswer])
  obtain ⟨id', -, -, ht, hlive⟩ := Book.session_ok hfound
  have hsame : g'.code = g.code := by
    rw [hhandle] at hanswer
    exact code_eq_of_response_eq (Content.json.inj (Response.mk.inj hanswer).2)
  have hfilled : g.code ≠ [] := hsame ▸ grants.codeFilled
  obtain ⟨htcode, -⟩ := code_of_grants safe reachable.kept ht grants
  rw [hsame] at htcode
  obtain rfl : id' = id := (reachable.complete unrepeated).id_unique ht htcode hs
    (code?_eq_some.2 ⟨hcode, hfilled⟩)
  obtain rfl : t = s := Option.some.inj (ht.symm.trans hs)
  exact absurd hlive (Int.not_le.2 expired)

/-! ### Along a run -/

/-- The clock is not turned back. -/
def Onward (events : List Event) : Prop := ∀ seconds, .advance seconds ∈ events → 0 ≤ seconds

theorem now_le_after (i : Issuer) (st : State) {e : Event} {events : List Event}
    (onward : Onward (e :: events)) : st.now ≤ (i.after st e).now := by
  cases e with
  | request r => exact Int.le_of_eq (handle_sameSetting i r st).now.symm
  | advance seconds =>
    have hpassed := onward seconds List.mem_cons_self
    show st.now ≤ st.now + seconds
    omega
  | trail _ => exact Int.le_refl _
  | registry _ => exact Int.le_refl _

/-- Along a run an expired session is frozen, and its code is not handed out. -/
theorem run_freezes {i : Issuer} (safe : i.generators.UrlSafe) {st : State}
    (reachable : Reachable i st) {events : List Event} (onward : Onward events)
    (unrepeated : (i.run st events).book.Unrepeated i.plan) {id : Text} {s : Session}
    (hs : st.book.store.get? id = some s) (expired : s.expiresAt < st.now) :
    (∃ s', (i.run st events).book.store.get? id = some s' ∧ s.Freezes s') ∧
      ∀ g : AuthorizationRequest.Grant, s.authorizationCode = some g.code →
        ⟨200, .json g.response⟩ ∉ i.answers st events := by
  induction events generalizing st s with
  | nil => exact ⟨⟨s, hs, Or.inl rfl⟩, fun g _ h => by cases h⟩
  | cons e events ih =>
    have hdraws := run_draws i (i.after st e) events
    have hnow := now_le_after i st onward
    obtain ⟨s', hs', hstep⟩ := after_stored reachable.kept (unrepeated.mono hdraws) hs
    have hfreezes : s.Freezes s' := by
      rcases hstep with rfl | ⟨r, -, hstep⟩
      · exact Or.inl rfl
      · exact hstep.freezes expired
    obtain ⟨⟨s'', hs'', hfreezes'⟩, hanswers⟩ := ih (.after e reachable)
      (fun seconds h => onward seconds (List.mem_cons_of_mem _ h)) unrepeated hs'
      (by rw [hfreezes.expiresAt]; omega)
    refine ⟨⟨s'', hs'', hfreezes.trans hfreezes'⟩, fun g hcode hmem => ?_⟩
    rw [answers, List.mem_append, Option.mem_toList] at hmem
    rcases hmem with hnow | hlater
    · cases e with
      | request r =>
        exact answer_ne_grant safe reachable
          (unrepeated.mono ((after_draws i st _).trans hdraws)) hs expired hcode r
          (Option.some.inj hnow)
      | advance _ => cases hnow
      | trail _ => cases hnow
      | registry _ => cases hnow
    · exact hanswers g (hfreezes.authorizationCode.trans hcode) hlater

/-- **Sessions are permanent, and expired ones are frozen.** As long as ids and codes do not repeat,
a session that is stored at some point of a run is stored at every later one, and all of it that
is not its code or its token is as it was. If it is expired at that point, and the clock is not
turned back, then it has not changed at all, but that a token which was bound to it may have been
revoked; and no request in between was answered with its code. -/
theorem sessions_permanent_and_frozen {i : Issuer} (safe : i.generators.UrlSafe) {st : State}
    (reachable : Reachable i st) {events : List Event}
    (unrepeated : (i.run st events).book.Unrepeated i.plan) {id : Text} {s : Session}
    (hs : st.book.store.get? id = some s) :
    ∃ s', (i.run st events).book.store.get? id = some s' ∧ s'.asOpened = s.asOpened ∧
      (s.expiresAt < st.now → (∀ seconds, .advance seconds ∈ events → 0 ≤ seconds) →
        (s' = s ∨ s.accessToken.isSome ∧ s' = { s with tokenRevoked := true }) ∧
        ∀ g : AuthorizationRequest.Grant, s.authorizationCode = some g.code →
          ⟨200, .json g.response⟩ ∉ i.answers st events) := by
  obtain ⟨s', hs', hopened⟩ := run_stored reachable unrepeated hs
  refine ⟨s', hs', hopened, fun expired onward => ?_⟩
  obtain ⟨⟨s'', hs'', hfreezes⟩, hanswers⟩ :=
    run_freezes safe reachable onward unrepeated hs expired
  obtain rfl : s'' = s' := Option.some.inj (hs''.symm.trans hs')
  exact ⟨hfreezes, hanswers⟩

namespace OneClient

/-- The state long after the session is expired, whose first code was exchanged in time. -/
def lapsed : State := issuer.after spent (.advance 200)

theorem reachable_lapsed : Reachable issuer lapsed :=
  .after _ (.after (.request presenting) reachable_coded)

theorem lapsed_eq : ∃ trail counters,
    lapsed = ⟨205, registry, redeemedBook, trail, counters⟩ := by
  obtain ⟨trail, counters, hspent⟩ := spent_eq
  refine ⟨trail, counters, ?_⟩
  unfold lapsed
  rw [hspent]
  rfl

/-- The session of a spent code stays as it is, however late the code is presented again. -/
theorem spent_session_is_frozen :
    issuer.generators.UrlSafe ∧ Reachable issuer lapsed ∧
      (issuer.run lapsed [.request presenting, .request fetching]).book.Unrepeated issuer.plan ∧
      lapsed.book.store.get? "a" = some redeemedSession ∧
      redeemedSession.expiresAt < lapsed.now ∧
      ∃ s, (issuer.run lapsed [.request presenting, .request fetching]).book.store.get? "a" =
          some s ∧
        (s = redeemedSession ∨ s = { redeemedSession with tokenRevoked := true }) ∧
        ⟨200, .json grant.response⟩ ∉
          issuer.answers lapsed [.request presenting, .request fetching] := by
  obtain ⟨trail, counters, hlapsed⟩ := lapsed_eq
  have hs : lapsed.book.store.get? "a" = some redeemedSession := by
    rw [hlapsed]
    rfl
  have expired : redeemedSession.expiresAt < lapsed.now := by
    rw [hlapsed]
    show redeemedSession.expiresAt < 205
    decide
  obtain ⟨s, hs', -, hfrozen⟩ := sessions_permanent_and_frozen urlSafe reachable_lapsed
    (unrepeated (issuer.run lapsed [.request presenting, .request fetching]).book) hs
  obtain ⟨hsame, hanswers⟩ := hfrozen expired (by simp)
  exact ⟨urlSafe, reachable_lapsed, unrepeated _, hs, expired, s, hs', hsame.imp_right And.right,
    hanswers grant rfl⟩

end OneClient

end Issuer

end Issuance
