import Issuance.Session.Store

/-!
# Issuance.Proofs.Session.Store

The laws of the store. Two kinds of fact are kept by every operation on it:

* **a bound token stays**: `Store.Continues` relates a store to a later one, in which every
  session that had a token has it still, with its times, and is still revoked if it was;
* **the index is in step with the sessions**: `Store.Sound` says that an indexed code is the
  current code of the session that the index names. The converse, `Store.Complete`, needs that
  the code which a session is given is nobody else's.

`bindToken?` and `revokeToken?` overwrite one stored session in place (`Store.withSession`); what
they do is read off their inversion lemmas.
-/

namespace Issuance

namespace Session

theorem filled?_eq_some {t : Option Text} {c : Text} :
    filled? t = some c ↔ t = some c ∧ c ≠ [] := by
  cases t with
  | none => simp [filled?]
  | some v =>
    cases v with
    | nil =>
      simp only [filled?, Option.some.injEq, reduceCtorEq, ne_eq, false_iff, not_and,
        Decidable.not_not]
      intro h
      exact h.symm
    | cons p rest =>
      simp only [filled?, Option.some.injEq, ne_eq]
      constructor
      · intro h
        subst h
        exact ⟨rfl, by simp⟩
      · exact And.left

theorem code?_eq_some {s : Session} {c : Text} :
    s.code? = some c ↔ s.authorizationCode = some c ∧ c ≠ [] :=
  filled?_eq_some

theorem code?_congr {s s' : Session} (h : s.authorizationCode = s'.authorizationCode) :
    s.code? = s'.code? := congrArg filled? h

/-- What a session with a bound token keeps: the token, its times, and that it is revoked. -/
structure KeepsToken (s s' : Session) : Prop where
  accessToken : s'.accessToken = s.accessToken
  issuedAt : s'.tokenIssuedAt = s.tokenIssuedAt
  expiresAt : s'.tokenExpiresAt = s.tokenExpiresAt
  revoked : s.tokenRevoked = true → s'.tokenRevoked = true

namespace KeepsToken

theorem refl (s : Session) : s.KeepsToken s := ⟨rfl, rfl, rfl, fun hr => hr⟩

theorem trans {s s' s'' : Session} (h : s.KeepsToken s') (h' : s'.KeepsToken s'') :
    s.KeepsToken s'' where
  accessToken := h'.accessToken.trans h.accessToken
  issuedAt := h'.issuedAt.trans h.issuedAt
  expiresAt := h'.expiresAt.trans h.expiresAt
  revoked := fun hr => h'.revoked (h.revoked hr)

end KeepsToken

namespace Store

/-- The store with one session overwritten, and the index untouched. -/
def withSession (st : Store) (id : Text) (s : Session) : Store :=
  ⟨Entries.set id s st.sessions, st.codes⟩

theorem get?_withSession (st : Store) (id other : Text) (s : Session) :
    (st.withSession id s).get? other = if id = other then some s else st.get? other :=
  Entries.get?_set id other s st.sessions

/-! ### What binding and revoking do -/

/-- Invert a binding that took place: the session was there without a token. -/
theorem bindToken?_true {st st' : Store} {id token : Text} {issuedAt expiresAt : Int}
    (h : st.bindToken? id token issuedAt expiresAt = some (st', true)) :
    ∃ s, st.get? id = some s ∧ s.accessToken = none ∧
      st' = st.withSession id { s with
        accessToken := some token
        tokenIssuedAt := some issuedAt
        tokenExpiresAt := some expiresAt } := by
  unfold bindToken? at h
  cases hs : st.get? id with
  | none => rw [hs] at h; cases h
  | some s =>
    rw [hs] at h
    dsimp only at h
    cases ht : s.accessToken with
    | some old => rw [ht] at h; simp at h
    | none =>
      rw [ht] at h
      simp only [Option.some.injEq, Prod.mk.injEq, and_true] at h
      exact ⟨s, rfl, ht, h.symm⟩

/-- A binding has a result wherever the session is stored. -/
theorem bindToken?_of_get? {st : Store} {id : Text} {s : Session} (hs : st.get? id = some s)
    (ht : s.accessToken = none) (token : Text) (issuedAt expiresAt : Int) :
    st.bindToken? id token issuedAt expiresAt = some (st.withSession id { s with
      accessToken := some token
      tokenIssuedAt := some issuedAt
      tokenExpiresAt := some expiresAt }, true) := by
  unfold bindToken?
  rw [hs]
  dsimp only
  rw [ht]
  rfl

theorem bindToken?_of_bound {st : Store} {id : Text} {s : Session} (hs : st.get? id = some s)
    (ht : s.accessToken.isSome) (token : Text) (issuedAt expiresAt : Int) :
    st.bindToken? id token issuedAt expiresAt = some (st, false) := by
  obtain ⟨old, hold⟩ := Option.isSome_iff_exists.1 ht
  unfold bindToken?
  rw [hs]
  dsimp only
  rw [hold]

theorem revokeToken?_some {st st' : Store} {id : Text} (h : st.revokeToken? id = some st') :
    ∃ s, st.get? id = some s ∧ st' = st.withSession id { s with tokenRevoked := true } := by
  unfold revokeToken? at h
  cases hs : st.get? id with
  | none => rw [hs] at h; cases h
  | some s =>
    rw [hs] at h
    exact ⟨s, rfl, (Option.some.inj h).symm⟩

theorem revokeToken?_of_get? {st : Store} {id : Text} {s : Session} (hs : st.get? id = some s) :
    st.revokeToken? id = some (st.withSession id { s with tokenRevoked := true }) := by
  unfold revokeToken?
  rw [hs]
  rfl

/-! ### A bound token stays -/

/-- Every session with a bound token is there in the later store, with what it keeps. -/
def Continues (st st' : Store) : Prop :=
  ∀ id s, st.get? id = some s → s.accessToken.isSome →
    ∃ s', st'.get? id = some s' ∧ s.KeepsToken s'

namespace Continues

theorem refl (st : Store) : st.Continues st :=
  fun _ s hs _ => ⟨s, hs, KeepsToken.refl s⟩

theorem trans {st st' st'' : Store} (h : st.Continues st') (h' : st'.Continues st'') :
    st.Continues st'' := by
  intro id s hs ht
  obtain ⟨s', hs', hk⟩ := h id s hs ht
  -- the session in the middle has a token as well, for it kept the first one
  obtain ⟨s'', hs'', hk'⟩ := h' id s' hs' (by rw [hk.accessToken]; exact ht)
  exact ⟨s'', hs'', hk.trans hk'⟩

/-- It is enough that the overwritten session keeps its token. -/
theorem withSession {st : Store} {id : Text} {s : Session}
    (h : ∀ previous, st.get? id = some previous → previous.accessToken.isSome →
      previous.KeepsToken s) : st.Continues (st.withSession id s) := by
  intro other previous hp ht
  rw [get?_withSession]
  by_cases heq : id = other
  · subst heq
    rw [if_pos rfl]
    exact ⟨s, rfl, h previous hp ht⟩
  · rw [if_neg heq]
    exact ⟨previous, hp, KeepsToken.refl previous⟩

end Continues

/-- Storing over a session with a bound token keeps what is bound, whatever is stored. -/
theorem keepsToken_keepToken {previous : Session} (s : Session)
    (ht : previous.accessToken.isSome) : previous.KeepsToken (keepToken previous s) := by
  obtain ⟨token, htoken⟩ := Option.isSome_iff_exists.1 ht
  unfold keepToken
  rw [htoken]
  exact ⟨htoken.symm, rfl, rfl, fun hr => by simp [hr]⟩

theorem continues_put (st : Store) (s : Session) : st.Continues (st.put s) := by
  intro id previous hp ht
  rw [get?_put]
  by_cases heq : s.id = id
  · subst heq
    rw [if_pos rfl, hp]
    exact ⟨_, rfl, keepsToken_keepToken s ht⟩
  · rw [if_neg heq]
    exact ⟨previous, hp, KeepsToken.refl previous⟩

theorem continues_bindToken? {st st' : Store} {id token : Text} {issuedAt expiresAt : Int}
    (h : st.bindToken? id token issuedAt expiresAt = some (st', true)) : st.Continues st' := by
  obtain ⟨s, hs, ht, rfl⟩ := bindToken?_true h
  refine Continues.withSession fun previous hp hbound => ?_
  -- the binding took place, so the session that is overwritten had no token to keep
  have heq : previous = s := Option.some.inj (hp.symm.trans hs)
  rw [heq, ht] at hbound
  cases hbound

theorem continues_revokeToken? {st st' : Store} {id : Text}
    (h : st.revokeToken? id = some st') : st.Continues st' := by
  obtain ⟨s, hs, rfl⟩ := revokeToken?_some h
  refine Continues.withSession fun previous hp _ => ?_
  have heq : previous = s := Option.some.inj (hp.symm.trans hs)
  rw [heq]
  exact ⟨rfl, rfl, rfl, fun _ => rfl⟩

/-! ### The sessions are kept under their own ids -/

/-- Every session is stored under its own id. -/
def Keyed (st : Store) : Prop := ∀ id s, st.get? id = some s → s.id = id

theorem keyed_empty : empty.Keyed := by
  intro id s hs
  rw [get?_empty] at hs
  cases hs

theorem Keyed.put {st : Store} (h : st.Keyed) (s : Session) : (st.put s).Keyed := by
  intro id s' hs'
  rw [get?_put] at hs'
  by_cases heq : s.id = id
  · rw [if_pos heq] at hs'
    cases hp : st.get? s.id with
    | none => rw [hp] at hs'; exact (Option.some.inj hs') ▸ heq
    | some previous =>
      rw [hp] at hs'
      rw [← Option.some.inj hs', id_keepToken]
      exact heq
  · rw [if_neg heq] at hs'
    exact h id s' hs'

theorem Keyed.withSession {st : Store} (h : st.Keyed) {id : Text} {s : Session} (hs : s.id = id) :
    (st.withSession id s).Keyed := by
  intro other s' hs'
  rw [get?_withSession] at hs'
  by_cases heq : id = other
  · rw [if_pos heq] at hs'
    rw [← Option.some.inj hs', hs]
    exact heq
  · rw [if_neg heq] at hs'
    exact h other s' hs'

/-! ### The index is in step with the sessions -/

/-- An indexed code is the current code of the session that the index names. -/
def Sound (st : Store) : Prop :=
  ∀ code id, Entries.get? code st.codes = some id → ∃ s, st.get? id = some s ∧ s.code? = some code

/-- The current code of every session is indexed to it. -/
def Complete (st : Store) : Prop :=
  ∀ id s code, st.get? id = some s → s.code? = some code → Entries.get? code st.codes = some id

theorem get?_indexCode (codes : Entries Text Text) (s : Session) (code : Text) :
    Entries.get? code (indexCode codes s) =
      if s.code? = some code then some s.id else Entries.get? code codes := by
  unfold indexCode
  cases h : s.code? with
  | none => simp
  | some c => simp [Entries.get?_set]

theorem get?_forgetCode (codes : Entries Text Text) (previous s : Session) (code : Text) :
    Entries.get? code (forgetCode codes previous s) =
      if previous.code? = some code ∧ s.authorizationCode ≠ some code then none
      else Entries.get? code codes := by
  unfold forgetCode
  cases h : previous.code? with
  | none => simp
  | some c =>
    dsimp only
    by_cases heq : c = code
    · subst heq
      -- the old code is forgotten unless the session goes on with it
      by_cases hs : s.authorizationCode = some c <;> simp [hs, Entries.get?_erase]
    · by_cases hs : s.authorizationCode = some c <;> simp [hs, heq, Entries.get?_erase]

/-- What the index has after a session is put: its own code leads to it, the code that it gave up
leads nowhere, and every other code leads where it did. -/
theorem get?_codes_put (st : Store) (s : Session) (code : Text) :
    Entries.get? code (st.put s).codes =
      if s.code? = some code then some s.id
      else if ∃ previous, st.get? s.id = some previous ∧ previous.code? = some code then none
      else Entries.get? code st.codes := by
  unfold put
  cases hp : st.get? s.id with
  | none => simp [get?_indexCode]
  | some previous =>
    simp only [get?_indexCode, get?_forgetCode, Option.some.injEq, exists_eq_left']
    -- the new code is indexed after the old one is forgotten, so it is asked for first
    by_cases hc : s.code? = some code
    · rw [if_pos hc, if_pos hc]
    · rw [if_neg hc, if_neg hc]
      by_cases hpc : previous.code? = some code
      · have hne : s.authorizationCode ≠ some code := fun h =>
          hc (code?_eq_some.2 ⟨h, (code?_eq_some.1 hpc).2⟩)
        rw [if_pos ⟨hpc, hne⟩, if_pos hpc]
      · rw [if_neg (fun h => hpc h.1), if_neg hpc]

/-- The session that a put leaves under the id of the session that was put. -/
theorem get?_put_self (st : Store) (s : Session) :
    ∃ s', (st.put s).get? s.id = some s' ∧ s'.id = s.id ∧
      s'.authorizationCode = s.authorizationCode := by
  rw [get?_put, if_pos rfl]
  cases hp : st.get? s.id with
  | none => exact ⟨s, rfl, rfl, rfl⟩
  | some previous => exact ⟨_, rfl, by simp, by simp⟩

theorem get?_put_of_ne {st : Store} {s : Session} {id : Text} (h : s.id ≠ id) :
    (st.put s).get? id = st.get? id := by
  rw [get?_put, if_neg h]

theorem sound_empty : empty.Sound := by
  intro code id h
  cases h

theorem Sound.put {st : Store} (h : st.Sound) (s : Session) : (st.put s).Sound := by
  intro code id hi
  rw [get?_codes_put] at hi
  by_cases hc : s.code? = some code
  · rw [if_pos hc] at hi
    obtain ⟨s', hs', -, hcode⟩ := get?_put_self st s
    refine ⟨s', (Option.some.inj hi) ▸ hs', ?_⟩
    rw [code?_eq_some, hcode]
    exact code?_eq_some.1 hc
  · rw [if_neg hc] at hi
    split at hi
    · cases hi
    · rename_i hgiven
      obtain ⟨s', hs', hcode⟩ := h code id hi
      -- the code would have been given up with the session it was stored with
      have hne : s.id ≠ id := fun heq => hgiven ⟨s', heq ▸ hs', hcode⟩
      exact ⟨s', (get?_put_of_ne hne).trans hs', hcode⟩

/-- Overwriting a session in place is sound where its code stays. -/
theorem Sound.withSession {st : Store} (h : st.Sound) {id : Text} {s previous : Session}
    (hp : st.get? id = some previous) (hc : s.authorizationCode = previous.authorizationCode) :
    (st.withSession id s).Sound := by
  intro code other hi
  obtain ⟨s', hs', hcode⟩ := h code other hi
  rw [get?_withSession]
  by_cases heq : id = other
  · subst heq
    rw [if_pos rfl]
    have hsame : previous = s' := Option.some.inj (hp.symm.trans hs')
    subst hsame
    refine ⟨s, rfl, ?_⟩
    rw [code?_eq_some, hc]
    exact code?_eq_some.1 hcode
  · rw [if_neg heq]
    exact ⟨s', hs', hcode⟩

theorem complete_empty : empty.Complete := by
  intro id s code hs
  rw [get?_empty] at hs
  cases hs

/-- Putting a session keeps the index complete where no other session has its code. -/
theorem Complete.put {st : Store} (h : st.Complete) {s : Session}
    (hfresh : ∀ id other, st.get? id = some other → id ≠ s.id → other.code? = s.code? →
      s.code? = none) : (st.put s).Complete := by
  intro id s' code hs' hcode
  rw [get?_codes_put]
  by_cases heq : s.id = id
  · subst heq
    obtain ⟨t, ht, -, hcodet⟩ := get?_put_self st s
    have hsame : t = s' := Option.some.inj (ht.symm.trans hs')
    subst hsame
    have hc : s.code? = some code := by
      rw [code?_eq_some, ← hcodet]
      exact code?_eq_some.1 hcode
    rw [if_pos hc]
  · rw [get?_put_of_ne heq] at hs'
    have hc : s.code? ≠ some code := by
      intro hc
      -- then the session that is put would share its code with another one
      have hnone := hfresh id s' hs' (Ne.symm heq) (hcode.trans hc.symm)
      rw [hnone] at hc
      cases hc
    rw [if_neg hc, if_neg]
    · exact h id s' code hs' hcode
    · rintro ⟨previous, hp, hpc⟩
      -- two sessions with one code would both be what the index names
      have h₁ := h s.id previous code hp hpc
      have h₂ := h id s' code hs' hcode
      exact heq (Option.some.inj (h₁.symm.trans h₂))

theorem Complete.withSession {st : Store} (h : st.Complete) {id : Text} {s previous : Session}
    (hp : st.get? id = some previous) (hc : s.authorizationCode = previous.authorizationCode) :
    (st.withSession id s).Complete := by
  intro other s' code hs' hcode
  rw [get?_withSession] at hs'
  by_cases heq : id = other
  · subst heq
    rw [if_pos rfl] at hs'
    have hsame : s = s' := Option.some.inj hs'
    subst hsame
    refine h id previous code hp ?_
    rw [code?_eq_some, ← hc]
    exact code?_eq_some.1 hcode
  · rw [if_neg heq] at hs'
    exact h other s' code hs' hcode

/-! ### Looking up by code -/

/-- A code leads to the session that the index names, unless the id is empty. -/
theorem getByCode?_eq_some {st : Store} {code : Text} {s : Session} :
    st.getByCode? code = some s ↔
      ∃ id, Entries.get? code st.codes = some id ∧ id ≠ [] ∧ st.get? id = some s := by
  unfold Store.getByCode? indexed?
  rw [Option.bind_eq_some_iff]
  constructor
  · rintro ⟨id, hid, hs⟩
    exact ⟨id, (filled?_eq_some.1 hid).1, (filled?_eq_some.1 hid).2, hs⟩
  · rintro ⟨id, hid, hne, hs⟩
    exact ⟨id, filled?_eq_some.2 ⟨hid, hne⟩, hs⟩

theorem getByCode?_of_unindexed {st : Store} {code : Text}
    (h : Entries.get? code st.codes = none) : st.getByCode? code = none := by
  unfold Store.getByCode? indexed?
  rw [h]
  rfl

/-- A session found by a code is stored, and the code is its current one. -/
theorem Sound.getByCode? {st : Store} (h : st.Sound) {code : Text} {s : Session}
    (hs : st.getByCode? code = some s) :
    ∃ id, id ≠ [] ∧ st.get? id = some s ∧ s.code? = some code := by
  obtain ⟨id, hid, hne, hget⟩ := getByCode?_eq_some.1 hs
  obtain ⟨s', hs', hcode⟩ := h code id hid
  have hsame : s' = s := Option.some.inj (hs'.symm.trans hget)
  exact ⟨id, hne, hget, hsame ▸ hcode⟩

end Store

end Session

end Issuance
