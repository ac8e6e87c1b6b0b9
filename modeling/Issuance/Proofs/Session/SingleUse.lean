import Issuance.Proofs.Session.Lifecycle

/-!
# Issuance.Proofs.Session.SingleUse

**Single use.** A caller of the lifecycle holds copies of sessions, and may hand any of them back
at any later time, when the stored session has long moved on. `Desk` is the book together with the
copies that are held, `step` is one call and `run` a sequence of calls, each at a time of its own.

A copy is named by its place in the order in which the copies were obtained. It is an object of
the caller's: giving a code to a session writes the code on the copy that was handed in, so a
later call with the same copy sees it.

Of all the calls that redeem for one session, at most one succeeds (`token_issued_at_most_once`).
The invariant is not about the copies at all: once the stored session has a token, every call
leaves a store that `Continues` it, and a redemption looks at the stored session last.
-/

namespace Issuance

namespace Session

/-- A call of the lifecycle, on held copies where it takes a session. -/
inductive Call
  | newSession (r : SessionRequest)
  | create (r : SessionRequest)
  | save (copy : Nat) (r : SessionRequest)
  | session (id : Option Text)
  | sessionOfCode (code : Option Text)
  | issueCode (copy : Nat)
  | issueToken (copy : Nat)
  | revokeToken (copy : Nat)

/-- What a call gives its caller. -/
inductive Answer
  | held (s : Session)
  | opened (id : Text)
  | done
  | code (code : Text)
  | token (id : Text) (t : BearerToken)
  | refused (failure : Failure)
  | noSuchCopy
  deriving DecidableEq

/-- The book, and the copies of sessions that the caller holds. -/
structure Desk where
  book : Book
  copies : List Session
  deriving DecidableEq

namespace Desk

/-- Nothing stored and nothing held. -/
def empty : Desk := ⟨.empty, []⟩

/-- Hands out the session that a look-up found. -/
def hand (d : Desk) : Except Fault Session → Answer × Desk
  | .ok s => (.held s, { d with copies := d.copies ++ [s] })
  | .error fault => (.refused (.fault fault.report), d)

/-- Runs an operation on a held copy. -/
def onCopy (d : Desk) (copy : Nat) (operation : Session → Answer × Desk) : Answer × Desk :=
  match d.copies[copy]? with
  | none => (.noSuchCopy, d)
  | some s => operation s

/-- One call. -/
def step (plan : Plan) (now : Int) (d : Desk) : Call → Answer × Desk
  | .newSession r =>
    let (s, book) := d.book.newSession plan now r
    (.held s, ⟨book, d.copies ++ [s]⟩)
  | .create r =>
    let (id, book) := d.book.create plan now r
    (.opened id, { d with book })
  | .save copy r => d.onCopy copy fun s => (.done, { d with book := d.book.save s r })
  | .session id => d.hand (d.book.session now id)
  | .sessionOfCode code => d.hand (d.book.sessionOfCode now code)
  | .issueCode copy => d.onCopy copy fun s =>
    let ((code, given), book) := d.book.issueCode plan now s
    (.code code, ⟨book, d.copies.set copy given⟩)
  | .issueToken copy => d.onCopy copy fun s =>
    match d.book.issueToken plan now s with
    | (.ok t, book) => (.token s.id t, { d with book })
    | (.error failure, book) => (.refused failure, { d with book })
  | .revokeToken copy => d.onCopy copy fun s =>
    match d.book.revokeToken s with
    | (.ok (), book) => (.done, { d with book })
    | (.error failure, book) => (.refused failure, { d with book })

/-- A sequence of calls, each at its time, with all answers. -/
def run (plan : Plan) (d : Desk) : List (Int × Call) → List Answer × Desk
  | [] => ([], d)
  | (now, call) :: rest =>
    let after := d.step plan now call
    let last := after.2.run plan rest
    (after.1 :: last.1, last.2)

theorem run_append (plan : Plan) (d : Desk) (calls rest : List (Int × Call)) :
    d.run plan (calls ++ rest) =
      ((d.run plan calls).1 ++ ((d.run plan calls).2.run plan rest).1,
        ((d.run plan calls).2.run plan rest).2) := by
  induction calls generalizing d with
  | nil => rfl
  | cons call calls ih =>
    rw [List.cons_append, run, ih]
    rfl

/-- The tokens that were handed out for a session. -/
def tokensOf (id : Text) (answers : List Answer) : List BearerToken :=
  answers.filterMap fun
    | .token other t => if other = id then some t else none
    | _ => none

theorem tokensOf_append (id : Text) (answers rest : List Answer) :
    tokensOf id (answers ++ rest) = tokensOf id answers ++ tokensOf id rest :=
  List.filterMap_append

/-- An answer hands out a token for the session, or it does not count. -/
theorem tokensOf_singleton (id : Text) (answer : Answer) :
    (∃ t, answer = .token id t ∧ tokensOf id [answer] = [t]) ∨ tokensOf id [answer] = [] := by
  cases answer with
  | token other t =>
    by_cases h : other = id
    · subst h
      exact Or.inl ⟨t, rfl, by simp [tokensOf]⟩
    · exact Or.inr (by simp [tokensOf, h])
  | _ => exact Or.inr rfl

/-! ### A bound token stays through every call -/

theorem book_hand (d : Desk) (found : Except Fault Session) : (d.hand found).2.book = d.book := by
  cases found <;> rfl

/-- A call with a copy runs the operation on it, or does nothing where there is no such copy. -/
theorem onCopy_cases (d : Desk) (copy : Nat) (operation : Session → Answer × Desk) :
    d.onCopy copy operation = (.noSuchCopy, d) ∨
      ∃ s, d.copies[copy]? = some s ∧ d.onCopy copy operation = operation s := by
  unfold onCopy
  cases d.copies[copy]? with
  | none => exact Or.inl rfl
  | some s => exact Or.inr ⟨s, rfl, rfl⟩

/-- What a call can do to the book. -/
inductive Effect (plan : Plan) (now : Int) (b : Book) : Book → Prop
  | idle : Effect plan now b b
  | drawn (r : SessionRequest) : Effect plan now b (b.newSession plan now r).2
  | created (r : SessionRequest) : Effect plan now b
      ((b.newSession plan now r).2.save (b.newSession plan now r).1 r)
  | saved (s : Session) (r : SessionRequest) : Effect plan now b (b.save s r)
  | coded (s : Session) : Effect plan now b (b.issueCode plan now s).2
  | exchanged (s : Session) : Effect plan now b (b.issueToken plan now s).2
  | revoked (s : Session) : Effect plan now b (b.revokeToken s).2

theorem effect_onCopy {plan : Plan} {now : Int} {d : Desk} {copy : Nat}
    {operation : Session → Answer × Desk}
    (h : ∀ s, Effect plan now d.book (operation s).2.book) :
    Effect plan now d.book (d.onCopy copy operation).2.book := by
  rcases onCopy_cases d copy operation with hnone | ⟨s, -, hsome⟩
  · rw [hnone]
    exact .idle
  · rw [hsome]
    exact h s

/-- Invert a call, as far as the book is concerned. -/
theorem effect_step (plan : Plan) (now : Int) (d : Desk) (call : Call) :
    Effect plan now d.book (d.step plan now call).2.book := by
  cases call with
  | newSession r => exact .drawn r
  | create r => exact .created r
  | save copy r => exact effect_onCopy fun s => .saved s r
  | session id =>
    rw [step, book_hand]
    exact .idle
  | sessionOfCode code =>
    rw [step, book_hand]
    exact .idle
  | issueCode copy => exact effect_onCopy fun s => .coded s
  | issueToken copy =>
    refine effect_onCopy fun s => ?_
    have h : Effect plan now d.book _ := .exchanged s
    rcases hr : d.book.issueToken plan now s with ⟨_ | _, book⟩ <;> rw [hr] at h <;> exact h
  | revokeToken copy =>
    refine effect_onCopy fun s => ?_
    have h : Effect plan now d.book _ := .revoked s
    rcases hr : d.book.revokeToken s with ⟨_ | _, book⟩ <;> rw [hr] at h <;> exact h

theorem continues_step (plan : Plan) (now : Int) (d : Desk) (call : Call) :
    d.book.store.Continues (d.step plan now call).2.book.store := by
  have h := effect_step plan now d call
  generalize (d.step plan now call).2.book = book at h
  cases h with
  | idle => exact Store.Continues.refl _
  | drawn r => exact Store.Continues.refl _
  | created r =>
    rw [Book.store_save]
    exact Store.continues_put _ _
  | saved s r =>
    rw [Book.store_save]
    exact Store.continues_put _ _
  | coded s => exact Store.continues_put _ _
  | exchanged s => exact Book.continues_issueToken plan now s d.book
  | revoked s => exact Book.continues_revokeToken s d.book

theorem continues_run (plan : Plan) (d : Desk) (calls : List (Int × Call)) :
    d.book.store.Continues (d.run plan calls).2.book.store := by
  induction calls generalizing d with
  | nil => exact Store.Continues.refl _
  | cons call calls ih =>
    obtain ⟨now, call⟩ := call
    exact (continues_step plan now d call).trans (ih (d.step plan now call).2)

/-! ### What a call that redeems does -/

/-- A session that is stored with a token. -/
def Redeemed (d : Desk) (id : Text) : Prop :=
  ∃ s, d.book.store.get? id = some s ∧ s.accessToken.isSome

theorem Redeemed.run {d : Desk} {id : Text} (h : d.Redeemed id) (plan : Plan)
    (calls : List (Int × Call)) : (d.run plan calls).2.Redeemed id := by
  obtain ⟨s, hs, ht⟩ := h
  obtain ⟨s', hs', hk⟩ := continues_run plan d calls id s hs ht
  exact ⟨s', hs', by rw [hk.accessToken]; exact ht⟩

/-- On a redeemed session the copy that is handed in makes no difference. -/
theorem Redeemed.step_issueToken {d : Desk} {id : Text} (h : d.Redeemed id) (plan : Plan)
    (now : Int) {copy : Nat} {s : Session} (hs : d.copies[copy]? = some s) (hid : s.id = id) :
    (d.step plan now (.issueToken copy)).1 = .refused (.fault (Fault.replayed id).report) := by
  obtain ⟨stored, hstored, ht⟩ := h
  subst hid
  -- the copy may be free still: the stored session is not
  have hissue := Book.issueToken_of_bound plan now hstored ht
  show (d.onCopy copy _).1 = _
  unfold onCopy
  rw [hs]
  dsimp only
  rcases hr : d.book.issueToken plan now s with ⟨failure | t, book⟩
  · rw [hr] at hissue
    exact congrArg Answer.refused (Except.error.inj hissue)
  · rw [hr] at hissue
    cases hissue

/-- Invert a call that handed out a token: it was a redemption, with a copy of that session. -/
theorem call_of_step_token {plan : Plan} {now : Int} {d : Desk} {call : Call} {id : Text}
    {t : BearerToken} (h : (d.step plan now call).1 = .token id t) :
    ∃ copy s book, call = .issueToken copy ∧ s.id = id ∧
      d.book.issueToken plan now s = (.ok t, book) ∧
      (d.step plan now call).2 = { d with book } := by
  cases call with
  | newSession r => cases h
  | create r => cases h
  | session found =>
    rw [step] at h
    cases hf : d.book.session now found <;> rw [hf] at h <;> cases h
  | sessionOfCode code =>
    rw [step] at h
    cases hf : d.book.sessionOfCode now code <;> rw [hf] at h <;> cases h
  | save copy r =>
    rw [step] at h
    rcases onCopy_cases d copy _ with hc | ⟨s, -, hc⟩ <;> rw [hc] at h <;> cases h
  | issueCode copy =>
    rw [step] at h
    rcases onCopy_cases d copy _ with hc | ⟨s, -, hc⟩ <;> rw [hc] at h <;> cases h
  | revokeToken copy =>
    rw [step] at h
    rcases onCopy_cases d copy _ with hc | ⟨s, -, hc⟩ <;> rw [hc] at h
    · cases h
    · rcases hr : d.book.revokeToken s with ⟨_ | _, book⟩ <;> rw [hr] at h <;> cases h
  | issueToken copy =>
    rw [step] at h ⊢
    rcases onCopy_cases d copy _ with hc | ⟨s, -, hc⟩ <;> rw [hc] at h ⊢
    · cases h
    · rcases hr : d.book.issueToken plan now s with ⟨failure | t', book⟩
      · rw [hr] at h
        cases h
      · rw [hr] at h
        injection h with hid ht
        subst ht
        exact ⟨copy, s, book, rfl, hid, hr, rfl⟩

/-- A call that handed out a token found none bound, and left it bound at the time of the call. -/
theorem step_token {plan : Plan} {now : Int} {d : Desk} {call : Call} {id : Text} {t : BearerToken}
    (h : (d.step plan now call).1 = .token id t) :
    ¬ d.Redeemed id ∧ ∃ s, (d.step plan now call).2.book.store.get? id = some s ∧
      s.accessToken = some t.authorizationValue ∧ s.tokenIssuedAt = some now ∧
      s.tokenExpiresAt = some (now + plan.lifetimes.token) := by
  obtain ⟨copy, s, book, -, rfl, hissue, hdesk⟩ := call_of_step_token h
  rw [hdesk]
  have hstep := Book.issueToken_step plan now s d.book
  rw [hissue] at hstep
  cases hstep with
  | bound stored _ found storedFree =>
    refine ⟨?_, Book.withToken plan now (d.book.nextToken plan) stored, ?_, rfl, rfl, rfl⟩
    · rintro ⟨s', hs', hbound⟩
      have heq : stored = s' := Option.some.inj (found.symm.trans hs')
      rw [← heq, storedFree] at hbound
      cases hbound
    · show (Store.withSession _ _ _).get? _ = _
      rw [Store.get?_withSession, if_pos rfl]

theorem redeemed_of_step_token {plan : Plan} {now : Int} {d : Desk} {call : Call} {id : Text}
    {t : BearerToken} (h : (d.step plan now call).1 = .token id t) :
    (d.step plan now call).2.Redeemed id := by
  obtain ⟨-, s, hs, ht, -, -⟩ := step_token h
  exact ⟨s, hs, by rw [ht]; rfl⟩

theorem tokensOf_run_cons (plan : Plan) (d : Desk) (id : Text) (now : Int) (call : Call)
    (calls : List (Int × Call)) :
    tokensOf id (d.run plan ((now, call) :: calls)).1 =
      tokensOf id [(d.step plan now call).1] ++
        tokensOf id ((d.step plan now call).2.run plan calls).1 := by
  rw [← tokensOf_append]
  rfl

/-- From a redemption on, no call hands out a token for that session. -/
theorem Redeemed.tokensOf_run {d : Desk} {id : Text} (h : d.Redeemed id) (plan : Plan)
    (calls : List (Int × Call)) : tokensOf id (d.run plan calls).1 = [] := by
  induction calls generalizing d with
  | nil => rfl
  | cons call calls ih =>
    obtain ⟨now, call⟩ := call
    have hrest : tokensOf id ((d.step plan now call).2.run plan calls).1 = [] :=
      ih (h.run plan [(now, call)])
    rw [tokensOf_run_cons, hrest, List.append_nil]
    rcases tokensOf_singleton id (d.step plan now call).1 with ⟨t, ht, -⟩ | hnone
    · exact absurd h (step_token ht).1
    · exact hnone

theorem length_tokensOf_run (plan : Plan) (d : Desk) (id : Text) (calls : List (Int × Call)) :
    (tokensOf id (d.run plan calls).1).length ≤ 1 := by
  induction calls generalizing d with
  | nil => exact Nat.zero_le 1
  | cons call calls ih =>
    obtain ⟨now, call⟩ := call
    rw [tokensOf_run_cons]
    -- either this call hands out the token and none after it does, or it is left to the others
    rcases tokensOf_singleton id (d.step plan now call).1 with ⟨t, ht, hone⟩ | hnone
    · rw [hone, (redeemed_of_step_token ht).tokensOf_run plan calls]
      exact Nat.le_refl 1
    · rw [hnone]
      exact ih _

theorem authorizationValue_nextToken (plan : Plan) (b : Book) :
    (b.nextToken plan).authorizationValue = ("Bearer " : Text) ++ (b.nextToken plan).token :=
  congrArg (· ++ (b.nextToken plan).token) (by decide : ("Bearer" : Text) ++ " " = "Bearer ")

/-- **Single use.** In every sequence of calls, from whatever is stored and held at its start, at
most one call hands out a token for a session. From that call on, at any two later moments: a
redemption with any copy of the session is refused as a replay; the stored session has that token,
with the times of that call; and once it is revoked it is revoked. -/
theorem token_issued_at_most_once (plan : Plan) (d : Desk) (id : Text) :
    (∀ calls, (tokensOf id (d.run plan calls).1).length ≤ 1) ∧
    ∀ before now copy t middle rest,
      ((d.run plan before).2.step plan now (.issueToken copy)).1 = .token id t →
      let redeemed := (d.run plan (before ++ [(now, .issueToken copy)])).2
      let earlier := (redeemed.run plan middle).2
      let later := (earlier.run plan rest).2
      (∀ time copy' s, later.copies[copy']? = some s → s.id = id →
        (later.step plan time (.issueToken copy')).1 =
          .refused (.fault (Fault.replayed id).report)) ∧
      ∃ s s', earlier.book.store.get? id = some s ∧ later.book.store.get? id = some s' ∧
        s'.accessToken = some (("Bearer " : Text) ++ t.token) ∧
        s'.tokenIssuedAt = some now ∧
        s'.tokenExpiresAt = some (now + plan.lifetimes.token) ∧
        (s.tokenRevoked = true → s'.tokenRevoked = true) := by
  refine ⟨length_tokensOf_run plan d id, ?_⟩
  intro before now copy t middle rest success
  have hredeemed : (d.run plan (before ++ [(now, .issueToken copy)])).2 =
      ((d.run plan before).2.step plan now (.issueToken copy)).2 := by
    rw [run_append]
    rfl
  rw [hredeemed]
  intro redeemed earlier later
  have hdone : redeemed.Redeemed id := redeemed_of_step_token success
  constructor
  · intro time copy' s hs hid
    exact ((hdone.run plan middle).run plan rest).step_issueToken plan time hs hid
  · obtain ⟨-, s₀, hs₀, htoken, hissued, hexpires⟩ := step_token success
    -- from the redemption to the earlier moment, and from there to the later one
    have hbound : s₀.accessToken.isSome := by rw [htoken]; rfl
    obtain ⟨s, hs, hk⟩ := continues_run plan redeemed middle id s₀ hs₀ hbound
    obtain ⟨s', hs', hk'⟩ :=
      continues_run plan earlier rest id s hs (by rw [hk.accessToken]; exact hbound)
    have hkeep := hk.trans hk'
    refine ⟨s, s', hs, hs', ?_, hkeep.issuedAt.trans hissued, hkeep.expiresAt.trans hexpires,
      hk'.revoked⟩
    rw [hkeep.accessToken, htoken]
    -- the token was drawn at the redemption, and all tokens are bearer tokens
    obtain ⟨_, held, book, -, -, hissue, -⟩ := call_of_step_token success
    have hstep := Book.issueToken_step plan now held (d.run plan before).2.book
    rw [hissue] at hstep
    cases hstep
    exact congrArg some (authorizationValue_nextToken plan _)

/-- A plan whose ids and secrets are single letters. -/
def letterPlan : Plan :=
  ⟨⟨100, 10, 50⟩, ⟨fun n => [CodePoint.ofNat (0x60 + n)], fun n => [CodePoint.ofNat (0x40 + n)]⟩⟩

/-- A request that states nothing but its client and where to redirect to. -/
def plainRequest : SessionRequest := {
  audience := .null
  issuer := .null
  subject := .null
  clientId := "c"
  tokenClientId := "c"
  notBefore := .null
  expiration := .null
  redirectUri := "r"
  responseType := .null
  state := .null
  persistentSessionId := .null
  clientSessionId := .null
  context := .null
  sharedClaims := none
  evidence := none
  clientAddress := none }

/-- Two copies of one session are looked up. The first redeems; the second, stale by then, is
given a code, put back and redeemed with. -/
theorem stale_copy_is_refused :
    let before : List (Int × Call) :=
      [(5, .create plainRequest), (5, .session (some "a")), (5, .session (some "a"))]
    let stale : List (Int × Call) := [(7, .issueCode 1), (8, .save 1 plainRequest)]
    ((empty.run letterPlan before).2.step letterPlan 6 (.issueToken 0)).1 =
        .token "a" ⟨"A", 50, "Bearer"⟩ ∧
      let later :=
        ((empty.run letterPlan (before ++ [(6, .issueToken 0)])).2.run letterPlan stale).2
      (later.step letterPlan 9 (.issueToken 1)).1 =
          .refused (.fault (Fault.replayed "a").report) ∧
        ∃ s, later.book.store.get? "a" = some s ∧
          s.accessToken = some (("Bearer " : Text) ++ "A") ∧ s.tokenIssuedAt = some 6 := by
  intro before stale
  have success : ((empty.run letterPlan before).2.step letterPlan 6 (.issueToken 0)).1 =
      .token "a" ⟨"A", 50, "Bearer"⟩ := by decide
  obtain ⟨hreplay, s, s', -, hs', htoken, hissued, -, -⟩ :=
    (token_issued_at_most_once letterPlan empty "a").2 before 6 0 ⟨"A", 50, "Bearer"⟩ stale []
      success
  exact ⟨success, hreplay 9 1 _ rfl rfl, s', hs', htoken, hissued⟩

end Desk

end Session

end Issuance
