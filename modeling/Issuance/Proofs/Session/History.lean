import Issuance.Proofs.Session.CodeIndex
import Issuance.Proofs.Session.Lifecycle

/-!
# Issuance.Proofs.Session.History

**A store by what was done to it.** Whatever the lifecycle does to a store it does by operations, so
what holds of every store that operations have made of an empty one (`Store.Made`) holds of every
store there is: its sessions are under their own ids, and its index is sound.

What the index has for a code depends on more than the sessions that are stored. A session that
gives up a code takes it from the index, also where the index has it for another session by then.
So the index has the code of a session just if, since the session was put last, no other one has
had the code (`indexed_iff_alone`).
-/

namespace Issuance

namespace Session

namespace Store

theorem performAll_append (st : Store) (earlier later : List Operation) :
    st.performAll (earlier ++ later) = (st.performAll earlier).performAll later :=
  List.foldl_append

/-! ### Stores that operations have made -/

/-- A store that operations have made of an empty one. -/
def Made (st : Store) : Prop := ∃ operations, st = empty.performAll operations

theorem made_empty : empty.Made := ⟨[], rfl⟩

namespace Made

variable {st : Store}

theorem perform (h : st.Made) (operation : Operation) : (st.perform operation).Made := by
  obtain ⟨operations, rfl⟩ := h
  refine ⟨operations ++ [operation], ?_⟩
  rw [performAll_append]
  rfl

theorem put (h : st.Made) (s : Session) : (st.put s).Made := h.perform (.put s)

/-- Binding a token to a session that is stored without one. -/
theorem bind (h : st.Made) {id : Text} {s : Session} (found : st.get? id = some s)
    (free : s.accessToken = none) (token : Text) (issuedAt expiresAt : Int) :
    (st.withSession id { s with
      accessToken := some token
      tokenIssuedAt := some issuedAt
      tokenExpiresAt := some expiresAt }).Made := by
  have hbound := h.perform (.bindToken id token issuedAt expiresAt)
  unfold Store.perform at hbound
  dsimp only at hbound
  rwa [bindToken?_of_get? found free] at hbound

/-- Revoking the token of a stored session. -/
theorem revoke (h : st.Made) {id : Text} {s : Session} (found : st.get? id = some s) :
    (st.withSession id { s with tokenRevoked := true }).Made := by
  have hrevoked := h.perform (.revokeToken id)
  unfold Store.perform at hrevoked
  dsimp only at hrevoked
  rwa [revokeToken?_of_get? found] at hrevoked

theorem indexed (h : st.Made) : Indexed (fun _ => True) st := by
  obtain ⟨operations, rfl⟩ := h
  exact (Indexed.empty _).performAll fun _ _ => trivial

end Made

/-! ### The code of a session since it was put last -/

/-- No session but the one with this id has the code. -/
def Alone (st : Store) (id code : Text) : Prop :=
  ∀ other s, st.get? other = some s → s.code? = some code → other = id

/-- No other session has the code in any of the stores that operations lead through, the first and
the last among them. -/
def AloneThroughout (id code : Text) : Store → List Operation → Prop
  | st, [] => st.Alone id code
  | st, operation :: operations =>
    st.Alone id code ∧ AloneThroughout id code (st.perform operation) operations

/-- The sessions with this id are not put by any of the operations. -/
def Unput (id : Text) (operations : List Operation) : Prop :=
  ∀ s, .put s ∈ operations → s.id ≠ id

theorem AloneThroughout.head {id code : Text} {st : Store} {operations : List Operation}
    (h : AloneThroughout id code st operations) : st.Alone id code := by
  cases operations with
  | nil => exact h
  | cons operation operations => exact h.1

/-- As long as no other session has the code, before the operation and after it, the index has it
for this session. -/
theorem indexed_perform {st : Store} {id code : Text} {operation : Operation}
    (indexed : Entries.get? code st.codes = some id) (before : st.Alone id code)
    (after : (st.perform operation).Alone id code) (unput : ∀ s, operation = .put s → s.id ≠ id) :
    Entries.get? code (st.perform operation).codes = some id := by
  have hchange := perform_change st operation
  generalize st.perform operation = st' at after hchange
  cases hchange with
  | put s =>
    have hne := unput s rfl
    rw [get?_codes_put, if_neg, if_neg]
    · exact indexed
    · rintro ⟨previous, hprevious, hcode⟩
      exact hne (before s.id previous hprevious hcode)
    · intro hcode
      obtain ⟨stored, hstored, -, hsame⟩ := get?_put_self st s
      exact hne (after s.id stored hstored ((code?_congr hsame).trans hcode))
  | overwritten _ _ _ _ => exact indexed
  | nothing _ => exact indexed

/-- The index has the code for another session, or has lost it. -/
def Astray (st : Store) (id code : Text) : Prop :=
  (∃ other s, st.get? other = some s ∧ s.code? = some code ∧ other ≠ id) ∨
    Entries.get? code st.codes = none

/-- What has gone astray comes back only when the session is put. -/
theorem Astray.perform {st : Store} {id code : Text} (h : st.Astray id code)
    {operation : Operation} (unput : ∀ s, operation = .put s → s.id ≠ id) :
    (st.perform operation).Astray id code := by
  have hchange := perform_change st operation
  generalize st.perform operation = st' at hchange
  cases hchange with
  | put s =>
    by_cases hcode : s.code? = some code
    · -- now the session that is put has the code
      obtain ⟨stored, hstored, -, hsame⟩ := get?_put_self st s
      exact Or.inl ⟨s.id, stored, hstored, (code?_congr hsame).trans hcode, unput s rfl⟩
    · rcases h with ⟨other, t, ht, htcode, hne⟩ | hnone
      · by_cases heq : s.id = other
        · -- the other session gives the code up, and takes it from the index
          refine Or.inr ?_
          rw [get?_codes_put, if_neg hcode, if_pos ⟨t, heq ▸ ht, htcode⟩]
        · exact Or.inl ⟨other, t, (get?_put_of_ne heq).trans ht, htcode, hne⟩
      · refine Or.inr ?_
        rw [get?_codes_put, if_neg hcode, hnone, ite_self]
  | @overwritten _ at' previous s found _ sameCode =>
    rcases h with ⟨other, t, ht, htcode, hne⟩ | hnone
    · refine Or.inl ?_
      by_cases heq : at' = other
      · subst heq
        obtain rfl : previous = t := Option.some.inj (found.symm.trans ht)
        refine ⟨at', s, ?_, (code?_congr sameCode).trans htcode, hne⟩
        rw [get?_withSession, if_pos rfl]
      · refine ⟨other, t, ?_, htcode, hne⟩
        rw [get?_withSession, if_neg heq]
        exact ht
    · exact Or.inr hnone
  | nothing _ => exact h

theorem Astray.performAll {st : Store} {id code : Text} (h : st.Astray id code)
    {operations : List Operation} (unput : Unput id operations) :
    (st.performAll operations).Astray id code := by
  induction operations generalizing st with
  | nil => exact h
  | cons operation operations ih =>
    exact ih (h.perform fun s hs => unput s (hs ▸ List.mem_cons_self))
      fun s hs => unput s (List.mem_cons_of_mem _ hs)

theorem alone_of_not_astray {st : Store} {id code : Text} (h : ¬ st.Astray id code) :
    st.Alone id code :=
  fun other s hs hcode => Decidable.byContradiction fun hne =>
    h (Or.inl ⟨other, s, hs, hcode, hne⟩)

theorem not_astray {st : Store} {id code : Text} (indexed : Entries.get? code st.codes = some id)
    (alone : st.Alone id code) : ¬ st.Astray id code := by
  rintro (⟨other, s, hs, hcode, hne⟩ | hnone)
  · exact hne (alone other s hs hcode)
  · rw [indexed] at hnone
    cases hnone

/-- **What the index has for the code of a session.** Let the index have the code for a session when
it is put, let it not be put again, and let no other session have the code in the end. Then the
index has it still just if no other session had it in between. -/
theorem indexed_iff_alone {st : Store} {id code : Text} {operations : List Operation}
    (indexed : Entries.get? code st.codes = some id) (unput : Unput id operations)
    (alone : (st.performAll operations).Alone id code) :
    Entries.get? code (st.performAll operations).codes = some id ↔
      AloneThroughout id code st operations := by
  induction operations generalizing st with
  | nil => exact iff_of_true indexed alone
  | cons operation operations ih =>
    have hfirst : ∀ s, operation = .put s → s.id ≠ id :=
      fun s hs => unput s (hs ▸ List.mem_cons_self)
    have hrest : Unput id operations := fun s hs => unput s (List.mem_cons_of_mem _ hs)
    constructor
    · intro hlast
      -- what had gone astray on the way would be astray in the end
      have hnow : st.Alone id code := alone_of_not_astray fun astray =>
        not_astray hlast alone (astray.performAll unput)
      have hnext : (st.perform operation).Alone id code := alone_of_not_astray fun astray =>
        not_astray hlast alone (astray.performAll hrest)
      exact ⟨hnow, (ih (indexed_perform indexed hnow hnext hfirst) hrest alone).1 hlast⟩
    · rintro ⟨hnow, throughout⟩
      exact (ih (indexed_perform indexed hnow throughout.head hfirst) hrest alone).2 throughout

/-- A session that an operation does not put was stored before it, with the code that it has. -/
theorem stored_of_perform {st : Store} {operation : Operation} {id : Text} {s : Session}
    (unput : ∀ put, operation = .put put → put.id ≠ id)
    (hs : (st.perform operation).get? id = some s) :
    ∃ t, st.get? id = some t ∧ t.authorizationCode = s.authorizationCode := by
  have hchange := perform_change st operation
  generalize st.perform operation = st' at hs hchange
  cases hchange with
  | put put =>
    rw [get?_put_of_ne (unput put rfl)] at hs
    exact ⟨s, hs, rfl⟩
  | @overwritten _ at' previous s' found _ sameCode =>
    rw [get?_withSession] at hs
    split at hs
    · rename_i heq
      cases hs
      exact ⟨previous, heq ▸ found, sameCode.symm⟩
    · exact ⟨s, hs, rfl⟩
  | nothing _ => exact ⟨s, hs, rfl⟩

/-- A session that is stored after operations was put by one of them, or was stored before; and it
has the code with which it was put last. -/
theorem last_put_or_unput {st : Store} {operations : List Operation} {id : Text} {s : Session}
    (hs : (st.performAll operations).get? id = some s) :
    (∃ earlier put later, operations = earlier ++ .put put :: later ∧ put.id = id ∧
      put.authorizationCode = s.authorizationCode ∧ Unput id later) ∨
    Unput id operations ∧
      ∃ t, st.get? id = some t ∧ t.authorizationCode = s.authorizationCode := by
  induction operations generalizing st with
  | nil => exact Or.inr ⟨fun _ hmem => (List.not_mem_nil hmem).elim, s, hs, rfl⟩
  | cons operation operations ih =>
    obtain ⟨earlier, put, later, rfl, hput⟩ | ⟨unput, t, ht, hcode⟩ := ih hs
    · exact Or.inl ⟨operation :: earlier, put, later, rfl, hput⟩
    · by_cases hput : ∃ put, operation = .put put ∧ put.id = id
      · obtain ⟨put, rfl, rfl⟩ := hput
        obtain ⟨stored, hstored, -, hsame⟩ := get?_put_self st put
        obtain rfl : stored = t := Option.some.inj (hstored.symm.trans ht)
        exact Or.inl ⟨[], put, operations, rfl, rfl, hsame.symm.trans hcode, unput⟩
      · have hother : ∀ put, operation = .put put → put.id ≠ id :=
          fun put hop hid => hput ⟨put, hop, hid⟩
        obtain ⟨t', ht', hcode'⟩ := stored_of_perform hother ht
        refine Or.inr ⟨fun put hmem => ?_, t', ht', hcode'.trans hcode⟩
        rcases List.mem_cons.1 hmem with heq | hmem
        · exact hother put heq.symm
        · exact unput put hmem

/-- A session that is stored has been put, and has the code with which it was put last. -/
theorem exists_last_put {operations : List Operation} {id : Text} {s : Session}
    (hs : (empty.performAll operations).get? id = some s) :
    ∃ earlier put later, operations = earlier ++ .put put :: later ∧ put.id = id ∧
      put.authorizationCode = s.authorizationCode ∧ Unput id later := by
  rcases last_put_or_unput hs with hput | ⟨-, t, ht, -⟩
  · exact hput
  · cases ht

/-- **When a code leads to its session.** Operations have put the session that has the code, and
there is a last put of it. Where no other session has the code in the end, the code leads to the
session just if no other one has had it since. -/
theorem getByCode?_iff_alone {operations : List Operation} {id code : Text} {s : Session}
    (hs : (empty.performAll operations).get? id = some s) (named : id ≠ [])
    (hcode : s.code? = some code) (alone : (empty.performAll operations).Alone id code) :
    ∃ earlier put later, operations = earlier ++ .put put :: later ∧ put.id = id ∧
      put.authorizationCode = s.authorizationCode ∧ Unput id later ∧
      ((empty.performAll operations).getByCode? code = some s ↔
        AloneThroughout id code ((empty.performAll earlier).put put) later) := by
  obtain ⟨earlier, put, later, rfl, hid, hsame, unput⟩ := exists_last_put hs
  have hput : put.code? = some code := (code?_congr hsame).trans hcode
  have hindexed : Entries.get? code ((empty.performAll earlier).put put).codes = some id := by
    rw [get?_codes_put, if_pos hput, hid]
  have hsplit : empty.performAll (earlier ++ .put put :: later) =
      ((empty.performAll earlier).put put).performAll later := performAll_append _ _ _
  have hkeyed : (empty.performAll (earlier ++ .put put :: later)).Keyed :=
    (Made.indexed ⟨_, rfl⟩).keyed
  refine ⟨earlier, put, later, rfl, hid, hsame, unput, ?_⟩
  rw [hsplit] at hs alone hkeyed ⊢
  rw [← indexed_iff_alone hindexed unput alone, getByCode?_eq_some]
  constructor
  · rintro ⟨other, hother, -, hget⟩
    rwa [← hkeyed id s hs, hkeyed other s hget]
  · intro hindex
    exact ⟨id, hindex, named, hs⟩

/-- Where no code is offered with two ids, what is offered with a code is alone with it. -/
theorem alone_of_exclusive {offered : Session → Prop} {st : Store} (h : Indexed offered st)
    (exclusive : Exclusive offered) {put : Session} (hput : offered put) {code : Text}
    (hcode : put.code? = some code) : st.Alone put.id code := by
  intro other s hs hscode
  obtain ⟨put', hput', hid, hsame⟩ := h.origin other s hs
  have hcode' : put'.code? = some code := (code?_congr hsame).trans hscode
  exact hid.symm.trans (exclusive put' put code hput' hput hcode' hcode)

theorem aloneThroughout_of_exclusive {offered : Session → Prop} {st : Store}
    {operations : List Operation} (h : Indexed offered st) (exclusive : Exclusive offered)
    (puts : ∀ s, .put s ∈ operations → offered s) {put : Session} (hput : offered put)
    {code : Text} (hcode : put.code? = some code) :
    AloneThroughout put.id code st operations := by
  induction operations generalizing st with
  | nil => exact alone_of_exclusive h exclusive hput hcode
  | cons operation operations ih =>
    refine ⟨alone_of_exclusive h exclusive hput hcode,
      ih (h.perform fun s hs => puts s (hs ▸ List.mem_cons_self))
        fun s hs => puts s (List.mem_cons_of_mem _ hs)⟩

/-- Where no code is put with two ids, a session that is put with a code is alone with it from then
on. -/
theorem aloneThroughout_of_put {earlier later : List Operation} {put : Session}
    (exclusive : Exclusive (PutBy (earlier ++ .put put :: later))) {code : Text}
    (hcode : put.code? = some code) :
    AloneThroughout put.id code ((empty.performAll earlier).put put) later := by
  have hput : PutBy (earlier ++ .put put :: later) put :=
    List.mem_append_right _ List.mem_cons_self
  have hbefore : (empty.performAll earlier).Indexed (PutBy (earlier ++ .put put :: later)) :=
    (Indexed.empty _).performAll fun _ hs => List.mem_append_left _ hs
  exact aloneThroughout_of_exclusive (hbefore.put hput) exclusive
    (fun _ hs => List.mem_append_right _ (List.mem_cons_of_mem _ hs)) hput hcode

/-- Of two sessions with one code the second gives it up. The first has it still, alone, and the
index does not know it any more. -/
theorem shared_code_is_lost :
    let st := empty.performAll [.put (coded "a" (some "x")), .put (coded "b" (some "x")),
      .put (coded "b" (some "y"))]
    (∃ s, st.get? "a" = some s ∧ s.code? = some "x") ∧ st.Alone "a" "x" ∧
      st.getByCode? "x" = none := by
  intro st
  have hsessions : ∀ id, st.get? id = if "a" = id then some (coded "a" (some "x"))
      else if "b" = id then some (coded "b" (some "y")) else none := fun _ => rfl
  refine ⟨⟨coded "a" (some "x"), rfl, rfl⟩, ?_, rfl⟩
  intro other s hs hcode
  rw [hsessions] at hs
  split at hs
  · rename_i heq
    exact heq.symm
  · split at hs
    · cases hs
      exact absurd hcode (by decide)
    · cases hs

end Store

namespace Book

/-- What an operation of the lifecycle does to a book, whichever it is: it goes on with the store by
operations, and what is drawn is drawn. -/
structure GoesOn (b b' : Book) : Prop extends Draws b b' where
  made : b.store.Made → b'.store.Made

theorem GoesOn.refl (b : Book) : b.GoesOn b := ⟨Draws.refl b, fun h => h⟩

theorem GoesOn.trans {b b' b'' : Book} (h : b.GoesOn b') (h' : b'.GoesOn b'') : b.GoesOn b'' :=
  ⟨h.toDraws.trans h'.toDraws, fun hb => h'.made (h.made hb)⟩

theorem goesOn_draw (b : Book) (ids secrets : Nat) : b.GoesOn { b with
    idsDrawn := b.idsDrawn + ids
    secretsDrawn := b.secretsDrawn + secrets } :=
  ⟨⟨Nat.le_add_right _ _, Nat.le_add_right _ _⟩, fun h => h⟩

theorem goesOn_save (s : Session) (r : SessionRequest) (b : Book) : b.GoesOn (b.save s r) where
  ids := Nat.le_of_eq (drawn_save s r b).1.symm
  secrets := Nat.le_of_eq (drawn_save s r b).2.symm
  made := by
    intro h
    rw [store_save]
    exact h.put s

theorem goesOn_issueCode (plan : Plan) (now : Int) (s : Session) (b : Book) :
    b.GoesOn (b.issueCode plan now s).2 :=
  ⟨⟨Nat.le_refl _, Nat.le_succ _⟩, fun h => h.put _⟩

theorem goesOn_revokeToken (s : Session) (b : Book) : b.GoesOn (b.revokeToken s).2 := by
  rcases store_revokeToken s b with ⟨-, hb⟩ | ⟨stored, hs, hb⟩
  · rw [hb]
    exact GoesOn.refl b
  · rw [hb]
    exact ⟨⟨Nat.le_refl _, Nat.le_refl _⟩, fun h => h.revoke hs⟩

theorem goesOn_issueToken (plan : Plan) (now : Int) (s : Session) (b : Book) :
    b.GoesOn (b.issueToken plan now s).2 := by
  have hstep := issueToken_step plan now s b
  generalize b.issueToken plan now s = result at hstep
  cases hstep with
  | bound stored _ found storedFree =>
    exact ⟨⟨Nat.le_refl _, Nat.le_succ _⟩, fun h => h.bind found storedFree _ _ _⟩
  | replayed drawn counted _ =>
    obtain ⟨more, rfl⟩ := Nat.exists_eq_add_of_le counted
    exact (goesOn_draw b 0 more).trans (goesOn_revokeToken s _)
  | missing _ _ => exact goesOn_draw b 0 1

end Book

end Session

end Issuance
