import Issuance.Session.Lifecycle
import Issuance.Proofs.Session.Store

/-!
# Issuance.Proofs.Session.Lifecycle

What each operation of the lifecycle can do to the book. The redemption is the one with more than
one way out, so it has an inversion lemma, `Book.issueToken_step`: a token is bound where none was,
or the redemption is refused as a replay, or the session is not there. All later arguments split
along `TokenStep` and never open `issueToken` again.

Ids and secrets are drawn one after the other, and a book counts them. That those drawn so far do not
repeat (`Book.Unrepeated`) is a condition on the generators, and it is handed back from a later book
to an earlier one, for the counts only grow (`Book.Draws`).
-/

namespace Issuance

namespace Session

/-- A session with another code. -/
def withCode (s : Session) (code : Text) (expiry : Int) : Session :=
  { s with authorizationCode := some code, codeExpiresAt := some expiry }

/-- A session that is stored over itself with another code has that code, and what it had. -/
theorem keepToken_withCode (s : Session) (code : Text) (expiry : Int) :
    Store.keepToken s (s.withCode code expiry) = s.withCode code expiry := by
  unfold Store.keepToken withCode
  cases ht : s.accessToken with
  | none => rfl
  | some token => simp only [Bool.or_self, ← ht]

namespace Book

/-- The token that a book draws next. -/
def nextToken (plan : Plan) (b : Book) : BearerToken :=
  ⟨plan.generators.secret (b.secretsDrawn + 1), plan.lifetimes.token, "Bearer"⟩

/-- A session as it is stored once a token is bound to it. -/
def withToken (plan : Plan) (now : Int) (t : BearerToken) (s : Session) : Session :=
  { s with
    accessToken := some t.authorizationValue
    tokenIssuedAt := some now
    tokenExpiresAt := some (now + plan.lifetimes.token) }

@[simp] theorem clientId_withToken (plan : Plan) (now : Int) (t : BearerToken) (s : Session) :
    (withToken plan now t s).clientId = s.clientId := rfl

@[simp] theorem redirectUri_withToken (plan : Plan) (now : Int) (t : BearerToken) (s : Session) :
    (withToken plan now t s).redirectUri = s.redirectUri := rfl

/-- The ways out of a redemption. -/
inductive TokenStep (plan : Plan) (now : Int) (s : Session) (b : Book) :
    Except Failure BearerToken × Book → Prop
  | bound (stored : Session) (free : s.accessToken = none)
      (found : b.store.get? s.id = some stored) (storedFree : stored.accessToken = none) :
      TokenStep plan now s b
        (.ok (b.nextToken plan), { b with
          store := b.store.withSession s.id (withToken plan now (b.nextToken plan) stored)
          secretsDrawn := b.secretsDrawn + 1 })
  | replayed (drawn : Nat) (counted : b.secretsDrawn ≤ drawn)
      (spent : s.accessToken.isSome ∨
        ∃ stored, b.store.get? s.id = some stored ∧ stored.accessToken.isSome) :
      TokenStep plan now s b (({ b with secretsDrawn := drawn } : Book).rejectReplay s)
  | missing (free : s.accessToken = none) (unknown : b.store.get? s.id = none) :
      TokenStep plan now s b
        (.error .internal, { b with secretsDrawn := b.secretsDrawn + 1 })

/-- Invert a redemption. -/
theorem issueToken_step (plan : Plan) (now : Int) (s : Session) (b : Book) :
    TokenStep plan now s b (b.issueToken plan now s) := by
  unfold issueToken
  cases ht : s.accessToken with
  | some token =>
    rw [Option.isSome_some, if_pos rfl]
    exact .replayed b.secretsDrawn (Nat.le_refl _) (Or.inl (by rw [ht]; rfl))
  | none =>
    rw [Option.isSome_none, if_neg Bool.false_ne_true]
    dsimp only
    -- from here on the stored session decides, not the copy
    cases hs : b.store.get? s.id with
    | none =>
      have hbind : b.store.bindToken? s.id (b.nextToken plan).authorizationValue now
          (now + plan.lifetimes.token) = none := by
        unfold Store.bindToken?
        rw [hs]
      unfold nextToken at hbind
      rw [hbind]
      exact .missing ht hs
    | some stored =>
      cases hstored : stored.accessToken with
      | none =>
        have hbind := Store.bindToken?_of_get? hs hstored (b.nextToken plan).authorizationValue now
          (now + plan.lifetimes.token)
        unfold nextToken at hbind
        rw [hbind]
        exact .bound stored ht hs hstored
      | some token =>
        have hsome : stored.accessToken.isSome := by rw [hstored]; rfl
        have hbind := Store.bindToken?_of_bound hs hsome (b.nextToken plan).authorizationValue now
          (now + plan.lifetimes.token)
        unfold nextToken at hbind
        rw [hbind]
        exact .replayed (b.secretsDrawn + 1) (Nat.le_succ _) (Or.inr ⟨stored, hs, hsome⟩)

/-- A redemption whose stored session has a token is refused as a replay. -/
theorem issueToken_of_bound (plan : Plan) (now : Int) {s stored : Session} {b : Book}
    (hs : b.store.get? s.id = some stored) (ht : stored.accessToken.isSome) :
    (b.issueToken plan now s).1 = .error (.fault (Fault.replayed s.id).report) := by
  have h := issueToken_step plan now s b
  generalize b.issueToken plan now s = result at h
  cases h with
  | bound stored' _ found storedFree =>
    have heq : stored' = stored := Option.some.inj (found.symm.trans hs)
    rw [← heq, storedFree] at ht
    cases ht
  | replayed _ _ _ => rfl
  | missing _ unknown =>
    rw [hs] at unknown
    cases unknown

/-! ### The store and the counts that an operation leaves -/

/-- What revoking leaves: the stored session marked, if there is one. -/
theorem store_revokeToken (s : Session) (b : Book) :
    (b.store.get? s.id = none ∧ (b.revokeToken s).2 = b) ∨
      ∃ stored, b.store.get? s.id = some stored ∧
        (b.revokeToken s).2 =
          { b with store := b.store.withSession s.id { stored with tokenRevoked := true } } := by
  unfold revokeToken
  cases hs : b.store.get? s.id with
  | none =>
    left
    refine ⟨rfl, ?_⟩
    have hrevoke : b.store.revokeToken? s.id = none := by
      unfold Store.revokeToken?
      rw [hs]
    rw [hrevoke]
  | some stored =>
    right
    refine ⟨stored, rfl, ?_⟩
    rw [Store.revokeToken?_of_get? hs]

/-- Revoking marks the session where it is the stored one. -/
theorem store_revokeToken_of_get? {s : Session} {b : Book} (hs : b.store.get? s.id = some s) :
    (b.revokeToken s).2.store = b.store.withSession s.id { s with tokenRevoked := true } := by
  rcases store_revokeToken s b with ⟨hnone, -⟩ | ⟨stored, hstored, hb⟩
  · rw [hs] at hnone
    cases hnone
  · obtain rfl : s = stored := Option.some.inj (hs.symm.trans hstored)
    rw [hb]

theorem continues_revokeToken (s : Session) (b : Book) :
    b.store.Continues (b.revokeToken s).2.store := by
  rcases store_revokeToken s b with ⟨-, h⟩ | ⟨stored, hs, h⟩
  · rw [h]
    exact Store.Continues.refl b.store
  · rw [h]
    exact Store.continues_revokeToken? (Store.revokeToken?_of_get? hs)

@[simp] theorem store_newSession (plan : Plan) (now : Int) (r : SessionRequest) (b : Book) :
    (b.newSession plan now r).2.store = b.store := rfl

@[simp] theorem store_save (s : Session) (r : SessionRequest) (b : Book) :
    (b.save s r).store = b.store.put s := by
  unfold save
  cases r.sharedClaims <;> rfl

theorem get?_issueCode {plan : Plan} {now : Int} {b : Book} {s : Session}
    (hs : b.store.get? s.id = some s) (id : Text) :
    (b.issueCode plan now s).2.store.get? id =
      if s.id = id then
        some (s.withCode (plan.generators.secret (b.secretsDrawn + 1)) (now + plan.lifetimes.code))
      else b.store.get? id := by
  show (b.store.put (s.withCode _ _)).get? id = _
  rw [Store.get?_put]
  have hid : ∀ code expiry, (s.withCode code expiry).id = s.id := fun _ _ => rfl
  rw [hid, hs]
  dsimp only
  rw [keepToken_withCode]

theorem continues_issueToken (plan : Plan) (now : Int) (s : Session) (b : Book) :
    b.store.Continues (b.issueToken plan now s).2.store := by
  have h := issueToken_step plan now s b
  generalize b.issueToken plan now s = result at h
  cases h with
  | bound stored _ found storedFree =>
    exact Store.continues_bindToken? (Store.bindToken?_of_get? found storedFree _ _ _)
  | replayed drawn _ _ => exact continues_revokeToken s { b with secretsDrawn := drawn }
  | missing _ _ => exact Store.Continues.refl b.store

/-! ### What every book keeps -/

/-- A text is one of the first that a source gave. -/
def Drawn (source : Nat → Text) (count : Nat) (t : Text) : Prop :=
  ∃ k, 1 ≤ k ∧ k ≤ count ∧ t = source k

theorem Drawn.mono {source : Nat → Text} {count count' : Nat} {t : Text}
    (h : Drawn source count t) (hle : count ≤ count') : Drawn source count' t := by
  obtain ⟨k, hpos, hk, rfl⟩ := h
  exact ⟨k, hpos, Nat.le_trans hk hle, rfl⟩

theorem Drawn.next (source : Nat → Text) (count : Nat) :
    Drawn source (count + 1) (source (count + 1)) :=
  ⟨count + 1, Nat.le_add_left 1 count, Nat.le_refl _, rfl⟩

/-- What holds of a book whose sessions were all opened by it: they are stored under their own
ids, an indexed code is the current code of its session, and every id and code has been drawn. -/
structure Kept (plan : Plan) (b : Book) : Prop where
  keyed : b.store.Keyed
  sound : b.store.Sound
  ids : ∀ id s, b.store.get? id = some s → Drawn plan.generators.sessionId b.idsDrawn id
  codes : ∀ id s code, b.store.get? id = some s → s.code? = some code →
    Drawn plan.generators.secret b.secretsDrawn code

namespace Kept

variable {plan : Plan} {b : Book}

theorem empty (plan : Plan) : Kept plan Book.empty where
  keyed := Store.keyed_empty
  sound := Store.sound_empty
  ids := fun id s hs => by cases hs
  codes := fun id s code hs => by cases hs

/-- Drawing does no harm. -/
theorem draw (h : Kept plan b) (ids secrets : Nat) :
    Kept plan { b with
      idsDrawn := b.idsDrawn + ids
      secretsDrawn := b.secretsDrawn + secrets } where
  keyed := h.keyed
  sound := h.sound
  ids := fun id s hs => (h.ids id s hs).mono (Nat.le_add_right _ _)
  codes := fun id s code hs hcode => (h.codes id s code hs hcode).mono (Nat.le_add_right _ _)

/-- Putting a session whose id and code have been drawn. -/
theorem put (h : Kept plan b) {s : Session}
    (hid : Drawn plan.generators.sessionId b.idsDrawn s.id)
    (hcode : ∀ code, s.code? = some code → Drawn plan.generators.secret b.secretsDrawn code) :
    Kept plan { b with store := b.store.put s } where
  keyed := h.keyed.put s
  sound := h.sound.put s
  ids := by
    intro id s' hs'
    by_cases heq : s.id = id
    · exact heq ▸ hid
    · rw [Store.get?_put_of_ne heq] at hs'
      exact h.ids id s' hs'
  codes := by
    intro id s' code hs' hc
    by_cases heq : s.id = id
    · subst heq
      -- a stored token is kept, but the code is that of the session that is put
      obtain ⟨t, ht, -, hsame⟩ := Store.get?_put_self b.store s
      have heq : t = s' := Option.some.inj (ht.symm.trans hs')
      subst heq
      refine hcode code ?_
      rw [code?_eq_some, ← hsame]
      exact code?_eq_some.1 hc
    · rw [Store.get?_put_of_ne heq] at hs'
      exact h.codes id s' code hs' hc

/-- Overwriting a session in place with one of the same id and code. -/
theorem withSession (h : Kept plan b) {id : Text} {s previous : Session}
    (hp : b.store.get? id = some previous) (hid : s.id = previous.id)
    (hc : s.authorizationCode = previous.authorizationCode) :
    Kept plan { b with store := b.store.withSession id s } where
  keyed := h.keyed.withSession (hid.trans (h.keyed id previous hp))
  sound := h.sound.withSession hp hc
  ids := by
    intro other s' hs'
    by_cases heq : id = other
    · exact heq ▸ h.ids id previous hp
    · rw [Store.get?_withSession, if_neg heq] at hs'
      exact h.ids other s' hs'
  codes := by
    intro other s' code hs' hcode
    by_cases heq : id = other
    · subst heq
      rw [Store.get?_withSession, if_pos rfl] at hs'
      cases hs'
      refine h.codes id previous code hp ?_
      rw [code?_eq_some, ← hc]
      exact code?_eq_some.1 hcode
    · rw [Store.get?_withSession, if_neg heq] at hs'
      exact h.codes other s' code hs' hcode

theorem revokeToken (h : Kept plan b) (s : Session) : Kept plan (b.revokeToken s).2 := by
  rcases store_revokeToken s b with ⟨-, hb⟩ | ⟨stored, hs, hb⟩
  · rw [hb]
    exact h
  · rw [hb]
    exact h.withSession hs rfl rfl

/-- Storing a fresh session. -/
theorem save_newSession (h : Kept plan b) (now : Int) (r : SessionRequest) :
    Kept plan ((b.newSession plan now r).2.save (b.newSession plan now r).1 r) := by
  have hput : Kept plan { (b.newSession plan now r).2 with
      store := (b.newSession plan now r).2.store.put (b.newSession plan now r).1 } := by
    -- a fresh session has no code yet
    refine (h.draw 1 0).put (Drawn.next _ _) fun code hcode => ?_
    cases hcode
  unfold save
  cases r.sharedClaims <;> exact ⟨hput.keyed, hput.sound, hput.ids, hput.codes⟩

/-- Giving a fresh code to a copy of a stored session. -/
theorem issueCode (h : Kept plan b) (now : Int) {id : Text} {s : Session}
    (hs : b.store.get? id = some s) : Kept plan (b.issueCode plan now s).2 := by
  refine (h.draw 0 1).put ?_ fun code hcode => ?_
  · show Drawn _ _ s.id
    rw [h.keyed id s hs]
    exact h.ids id s hs
  · have heq := (code?_eq_some.1 hcode).1
    cases heq
    exact Drawn.next _ _

end Kept

/-! ### Ids and codes that do not repeat -/

/-- The first texts that a source gives are all different. -/
def Distinct (source : Nat → Text) (count : Nat) : Prop :=
  ∀ j k, 1 ≤ j → j ≤ count → 1 ≤ k → k ≤ count → source j = source k → j = k

theorem Distinct.mono {source : Nat → Text} {count count' : Nat} (h : Distinct source count')
    (hle : count ≤ count') : Distinct source count :=
  fun j k hj hjc hk hkc => h j k hj (Nat.le_trans hjc hle) hk (Nat.le_trans hkc hle)

/-- The next text is none of those before. -/
theorem Distinct.next_ne {source : Nat → Text} {count : Nat} (h : Distinct source (count + 1))
    {t : Text} (ht : Drawn source count t) : source (count + 1) ≠ t := by
  obtain ⟨k, hpos, hk, rfl⟩ := ht
  intro heq
  have := h (count + 1) k (by omega) (by omega) hpos (by omega) heq
  omega

/-- No id and no secret that has been drawn came twice. -/
structure Unrepeated (plan : Plan) (b : Book) : Prop where
  ids : Distinct plan.generators.sessionId b.idsDrawn
  secrets : Distinct plan.generators.secret b.secretsDrawn

/-- As much has been drawn, or more. -/
structure Draws (b b' : Book) : Prop where
  ids : b.idsDrawn ≤ b'.idsDrawn
  secrets : b.secretsDrawn ≤ b'.secretsDrawn

theorem Draws.refl (b : Book) : b.Draws b := ⟨Nat.le_refl _, Nat.le_refl _⟩

theorem Draws.trans {b b' b'' : Book} (h : b.Draws b') (h' : b'.Draws b'') : b.Draws b'' :=
  ⟨Nat.le_trans h.ids h'.ids, Nat.le_trans h.secrets h'.secrets⟩

theorem Unrepeated.mono {plan : Plan} {b b' : Book} (h : b'.Unrepeated plan) (hle : b.Draws b') :
    b.Unrepeated plan :=
  ⟨h.ids.mono hle.ids, h.secrets.mono hle.secrets⟩

theorem drawn_save (s : Session) (q : SessionRequest) (b : Book) :
    (b.save s q).idsDrawn = b.idsDrawn ∧ (b.save s q).secretsDrawn = b.secretsDrawn := by
  unfold save
  cases q.sharedClaims <;> exact ⟨rfl, rfl⟩

/-! ### Looking up -/

/-- Invert a look-up by id: the session is stored and not past its expiry. -/
theorem session_ok {now : Int} {id : Option Text} {b : Book} {s : Session}
    (h : b.session now id = .ok s) :
    ∃ id', id = some id' ∧ id' ≠ [] ∧ b.store.get? id' = some s ∧ now ≤ s.expiresAt := by
  unfold session at h
  cases hf : (filled? id).bind b.store.get? with
  | none => rw [hf] at h; cases h
  | some found =>
    rw [hf] at h
    dsimp only at h
    obtain ⟨id', hid, hget⟩ := Option.bind_eq_some_iff.1 hf
    obtain ⟨rfl, hne⟩ := filled?_eq_some.1 hid
    split at h
    · cases h
    · rename_i hlive
      cases h
      refine ⟨id', rfl, hne, hget, ?_⟩
      simpa [isExpiredAt] using hlive

/-- Invert a look-up by code: the session is found by the index, and either has a token already
or is live with a live code. -/
theorem sessionOfCode_ok {now : Int} {code : Text} {b : Book} {s : Session}
    (h : b.sessionOfCode now (some code) = .ok s) :
    code ≠ [] ∧ b.store.getByCode? code = some s ∧
      (s.accessToken = none →
        now ≤ s.expiresAt ∧ ∃ expiry, s.codeExpiresAt = some expiry ∧ now ≤ expiry) := by
  unfold sessionOfCode at h
  cases hf : (filled? (some code)).bind b.store.getByCode? with
  | none => rw [hf] at h; cases h
  | some found =>
    rw [hf] at h
    dsimp only at h
    obtain ⟨code', hcode, hget⟩ := Option.bind_eq_some_iff.1 hf
    obtain ⟨heq, hne⟩ := filled?_eq_some.1 hcode
    cases heq
    split at h
    · rename_i ht
      cases h
      refine ⟨hne, hget, fun hnone => ?_⟩
      rw [hnone] at ht
      cases ht
    · split at h
      · cases h
      · rename_i hlive
        split at h
        · cases h
        · rename_i expiry hexpiry
          split at h
          · cases h
          · rename_i hcodeLive
            cases h
            refine ⟨hne, hget, fun _ => ⟨?_, expiry, hexpiry, Int.not_lt.1 hcodeLive⟩⟩
            simpa [isExpiredAt] using hlive

/-- A code whose session has a token is looked up whatever the time. -/
theorem sessionOfCode_of_bound {now : Int} {code : Text} {b : Book} {s : Session}
    (hne : code ≠ []) (hs : b.store.getByCode? code = some s) (ht : s.accessToken.isSome) :
    b.sessionOfCode now (some code) = .ok s := by
  have hfilled : filled? (some code) = some code := filled?_eq_some.2 ⟨rfl, hne⟩
  unfold sessionOfCode
  rw [hfilled, Option.bind_some, hs]
  dsimp only
  rw [if_pos ht]

/-- A code that the index has is looked up while it and its session are live. -/
theorem sessionOfCode_of_live {now : Int} {code : Text} {b : Book} {s : Session} {expiry : Int}
    (hne : code ≠ []) (hs : b.store.getByCode? code = some s) (live : now ≤ s.expiresAt)
    (hexpiry : s.codeExpiresAt = some expiry) (codeLive : now ≤ expiry) :
    b.sessionOfCode now (some code) = .ok s := by
  have hfilled : filled? (some code) = some code := filled?_eq_some.2 ⟨rfl, hne⟩
  have hexpired : s.isExpiredAt now = false := by simpa [isExpiredAt] using live
  unfold sessionOfCode
  rw [hfilled, Option.bind_some, hs]
  dsimp only
  rw [hexpired, hexpiry]
  dsimp only
  rw [if_neg Bool.false_ne_true, if_neg (Int.not_lt.2 codeLive), ite_self]

/-- A code that the index does not have is no code of any session. -/
theorem sessionOfCode_of_unknown {now : Int} {code : Option Text} {b : Book}
    (h : ∀ c, code = some c → b.store.getByCode? c = none) :
    b.sessionOfCode now code = .error .notFound := by
  unfold sessionOfCode
  have hnone : (filled? code).bind b.store.getByCode? = none := by
    rw [Option.bind_eq_none_iff]
    intro c hc
    exact h c (filled?_eq_some.1 hc).1
  rw [hnone]

end Book

end Session

end Issuance
