import Issuance.Proofs.Session.Store

/-!
# Issuance.Proofs.Session.CodeIndex

**The index of codes, over any use of the store.** A caller may put any session at any time: a
stale copy, one with a code that it has made up, one without a code, or one with a code that
another session has. Whatever is done, a code leads only to the session that has it now
(`Store.Sound`), so no session has two codes that lead to it.

That every code leads somewhere (`Store.Complete`) needs more: a code that is put with two ids
leads to one of them at most. It is true where no code is (`code_index_correct`).
-/

namespace Issuance

namespace Session

namespace Store

/-- What can be done to a store. -/
inductive Operation
  | put (s : Session)
  | bindToken (id token : Text) (issuedAt expiresAt : Int)
  | revokeToken (id : Text)

/-- The store after an operation. One on a session that is not stored changes nothing. -/
def perform (st : Store) : Operation → Store
  | .put s => st.put s
  | .bindToken id token issuedAt expiresAt =>
    match st.bindToken? id token issuedAt expiresAt with
    | some (st', _) => st'
    | none => st
  | .revokeToken id => (st.revokeToken? id).getD st

/-- The store after operations, one after the other. -/
def performAll (st : Store) (operations : List Operation) : Store := operations.foldl perform st

/-! ### What an operation changes -/

/-- A binding that finds a token bound changes nothing. -/
theorem bindToken?_false {st st' : Store} {id token : Text} {issuedAt expiresAt : Int}
    (h : st.bindToken? id token issuedAt expiresAt = some (st', false)) : st' = st := by
  unfold bindToken? at h
  cases hs : st.get? id with
  | none => rw [hs] at h; cases h
  | some s =>
    rw [hs] at h
    dsimp only at h
    cases ht : s.accessToken with
    | none => rw [ht] at h; simp at h
    | some token =>
      rw [ht] at h
      simp only [Option.some.injEq, Prod.mk.injEq, and_true] at h
      exact h.symm

/-- The ways in which an operation changes a store. Only a put changes a code: any other
operation overwrites one session at most, which keeps its id and its code. -/
inductive Change (st : Store) : Operation → Store → Prop
  | put (s : Session) : Change st (.put s) (st.put s)
  | overwritten (operation : Operation) {id : Text} {previous s : Session}
      (found : st.get? id = some previous) (sameId : s.id = previous.id)
      (sameCode : s.authorizationCode = previous.authorizationCode) :
      Change st operation (st.withSession id s)
  | nothing (operation : Operation) : Change st operation st

/-- Invert an operation. -/
theorem perform_change (st : Store) (operation : Operation) :
    Change st operation (st.perform operation) := by
  cases operation with
  | put s => exact .put s
  | bindToken id token issuedAt expiresAt =>
    unfold perform
    dsimp only
    rcases hbind : st.bindToken? id token issuedAt expiresAt with _ | ⟨st', _ | _⟩
    · exact .nothing _
    · rw [bindToken?_false hbind]
      exact .nothing _
    · obtain ⟨s, hs, -, rfl⟩ := bindToken?_true hbind
      exact .overwritten _ hs rfl rfl
  | revokeToken id =>
    unfold perform
    dsimp only
    cases hrevoke : st.revokeToken? id with
    | none => exact .nothing _
    | some st' =>
      obtain ⟨s, hs, rfl⟩ := revokeToken?_some hrevoke
      exact .overwritten _ hs rfl rfl

/-! ### What operations keep -/

/-- No code is offered with two ids. -/
def Exclusive (offered : Session → Prop) : Prop :=
  ∀ s s' code, offered s → offered s' → s.code? = some code → s'.code? = some code → s.id = s'.id

/-- What a store keeps when nothing is put but what is offered. Every stored session has its id and
its code from one that was put, so codes that are offered with one id are stored under one id. -/
structure Indexed (offered : Session → Prop) (st : Store) : Prop where
  keyed : st.Keyed
  sound : st.Sound
  origin : ∀ id s, st.get? id = some s →
    ∃ put, offered put ∧ put.id = id ∧ put.authorizationCode = s.authorizationCode
  complete : Exclusive offered → st.Complete

namespace Indexed

variable {offered : Session → Prop} {st : Store}

theorem empty (offered : Session → Prop) : Indexed offered Store.empty where
  keyed := keyed_empty
  sound := sound_empty
  origin := by
    intro id s hs
    cases hs
  complete := fun _ => complete_empty

theorem put (h : Indexed offered st) {s : Session} (hs : offered s) :
    Indexed offered (st.put s) where
  keyed := h.keyed.put s
  sound := h.sound.put s
  origin := by
    intro id stored hstored
    by_cases heq : s.id = id
    · subst heq
      obtain ⟨s', hs', -, hcode⟩ := get?_put_self st s
      rw [hs'] at hstored
      cases hstored
      exact ⟨s, hs, rfl, hcode.symm⟩
    · rw [get?_put_of_ne heq] at hstored
      exact h.origin id stored hstored
  complete := by
    intro exclusive
    refine (h.complete exclusive).put fun id other hother hne hsame => ?_
    cases hcode : s.code? with
    | none => rfl
    | some code =>
      -- the other session was put with this code too, under an id that is not this one
      obtain ⟨put, hput, hid, hputCode⟩ := h.origin id other hother
      have hcode' : put.code? = some code := ((code?_congr hputCode).trans hsame).trans hcode
      exact absurd (hid.symm.trans (exclusive put s code hput hs hcode' hcode)) hne

theorem withSession (h : Indexed offered st) {id : Text} {previous s : Session}
    (found : st.get? id = some previous) (sameId : s.id = previous.id)
    (sameCode : s.authorizationCode = previous.authorizationCode) :
    Indexed offered (st.withSession id s) where
  keyed := h.keyed.withSession (sameId.trans (h.keyed id previous found))
  sound := h.sound.withSession found sameCode
  origin := by
    intro other stored hstored
    rw [get?_withSession] at hstored
    split at hstored
    · rename_i heq
      cases hstored
      rw [← heq, sameCode]
      exact h.origin id previous found
    · exact h.origin other stored hstored
  complete := fun exclusive => (h.complete exclusive).withSession found sameCode

theorem perform (h : Indexed offered st) {operation : Operation}
    (puts : ∀ s, operation = .put s → offered s) : Indexed offered (st.perform operation) := by
  have hchange := perform_change st operation
  generalize st.perform operation = st' at hchange
  cases hchange with
  | put s => exact h.put (puts s rfl)
  | overwritten _ found sameId sameCode => exact h.withSession found sameId sameCode
  | nothing _ => exact h

theorem performAll (h : Indexed offered st) {operations : List Operation}
    (puts : ∀ s, .put s ∈ operations → offered s) : Indexed offered (st.performAll operations) := by
  induction operations generalizing st with
  | nil => exact h
  | cons operation operations ih =>
    refine ih (h.perform fun s hs => puts s ?_) fun s hs => puts s (List.mem_cons_of_mem _ hs)
    rw [hs]
    exact List.mem_cons_self

end Indexed

/-- What is put, in a sequence of operations. -/
def PutBy (operations : List Operation) (s : Session) : Prop := .put s ∈ operations

/-- **The index is correct, whatever is done to the store.** A code leads only to the session that
is stored with that very code, under its own id, and no two codes lead to one session. Where every
id that is put says something and no code is put with two ids, every code of a stored session
leads to that session. -/
theorem code_index_correct (operations : List Operation) :
    (∀ code s, (empty.performAll operations).getByCode? code = some s →
      (empty.performAll operations).get? s.id = some s ∧ s.authorizationCode = some code) ∧
    (∀ code code' s s', (empty.performAll operations).getByCode? code = some s →
      (empty.performAll operations).getByCode? code' = some s' → s.id = s'.id → code = code') ∧
    ((∀ s, PutBy operations s → s.id ≠ []) → Exclusive (PutBy operations) →
      ∀ id s code, (empty.performAll operations).get? id = some s →
        s.authorizationCode = some code → code ≠ [] →
        (empty.performAll operations).getByCode? code = some s) := by
  have indexed : Indexed (PutBy operations) (empty.performAll operations) :=
    (Indexed.empty _).performAll fun _ hs => hs
  generalize empty.performAll operations = st at indexed
  have hsound : ∀ code s, st.getByCode? code = some s →
      st.get? s.id = some s ∧ s.authorizationCode = some code := by
    intro code s hs
    obtain ⟨id, -, hget, hcode⟩ := indexed.sound.getByCode? hs
    rw [indexed.keyed id s hget]
    exact ⟨hget, (code?_eq_some.1 hcode).1⟩
  refine ⟨hsound, ?_, ?_⟩
  · intro code code' s s' hs hs' hid
    obtain ⟨hget, hcode⟩ := hsound code s hs
    obtain ⟨hget', hcode'⟩ := hsound code' s' hs'
    rw [hid, hget'] at hget
    cases hget
    exact Option.some.inj (hcode.symm.trans hcode')
  · intro named exclusive id s code hs hcode hne
    obtain ⟨put, hput, hid, -⟩ := indexed.origin id s hs
    refine getByCode?_eq_some.2 ⟨id, ?_, hid ▸ named put hput, hs⟩
    exact indexed.complete exclusive id s code hs (code?_eq_some.2 ⟨hcode, hne⟩)

/-- A session with an id and a code. -/
def coded (id : Text) (code : Option Text) : Session where
  id := id
  clientId := "client"
  subject := .null
  redirectUri := "uri"
  state := .null
  createdAt := 0
  expiresAt := 100
  authorizationCode := code
  codeExpiresAt := some 10
  accessToken := none
  tokenExpiresAt := none
  tokenIssuedAt := none
  tokenRevoked := false
  clientSessionId := .null
  persistentSessionId := .null
  context := .null
  clientAddress := none
  evidence := none

/-- A session gets a code and then another, and is given a token; then a copy with its first code is
put back. -/
def revival : List Operation :=
  [.put (coded "a" (some "first")), .put (coded "b" (some "other")),
    .put (coded "a" (some "second")), .bindToken "a" "token" 5 50,
    .put (coded "a" (some "first")), .revokeToken "b"]

/-- The code of the copy leads to the session again, and the code in between to nothing. -/
theorem revived_code_is_indexed :
    (∀ s, PutBy revival s → s.id ≠ []) ∧ Exclusive (PutBy revival) ∧
      (∃ s, (empty.performAll revival).get? "a" = some s ∧ s.accessToken = some "token" ∧
        (empty.performAll revival).getByCode? "first" = some s) ∧
      (empty.performAll revival).getByCode? "second" = none := by
  have hputs : ∀ s, PutBy revival s → s = coded "a" (some "first") ∨
      s = coded "b" (some "other") ∨ s = coded "a" (some "second") := by
    intro s hs
    simp only [PutBy, revival, List.mem_cons, Operation.put.injEq, reduceCtorEq, false_or,
      List.not_mem_nil, or_false] at hs
    rcases hs with h | h | h | h
    · exact Or.inl h
    · exact Or.inr (Or.inl h)
    · exact Or.inr (Or.inr h)
    · exact Or.inl h
  have named : ∀ s, PutBy revival s → s.id ≠ [] := by
    intro s hs
    rcases hputs s hs with rfl | rfl | rfl <;> decide
  -- the code that is put tells the id that it is put with
  have owner : ∀ s, PutBy revival s →
      s.id = if s.code? = some "other" then Text.ofString "b" else Text.ofString "a" := by
    intro s hs
    rcases hputs s hs with rfl | rfl | rfl <;> decide
  have exclusive : Exclusive (PutBy revival) := by
    intro s s' code hs hs' hcode hcode'
    rw [owner s hs, owner s' hs', hcode, hcode']
  obtain ⟨s, hs, htoken, hcode⟩ : ∃ s, (empty.performAll revival).get? "a" = some s ∧
      s.accessToken = some "token" ∧ s.authorizationCode = some "first" :=
    ⟨_, rfl, rfl, rfl⟩
  exact ⟨named, exclusive, ⟨s, hs, htoken,
    (code_index_correct revival).2.2 named exclusive "a" s "first" hs hcode (by decide)⟩, rfl⟩

end Store

end Session

end Issuance
