import Issuance.Proofs.Service.Authorization

/-!
# Issuance.Proofs.Service.Handover

**Whether a code that is handed out is known.** A code is put on a session by the evidence journey,
which draws it at `/authorization-code` or deposits one of its own (`State.deposit`). The client is
handed the code without the blanks at its ends, while the index has it as it was put. So the code
that the client holds leads to its session if there was nothing to trim, and if the index has not
lost the code to another session in the meantime (`handed_out_code_known_iff`).
-/

namespace Issuance

namespace Issuer

open Http Session

/-! ### Codes that the evidence journey deposits -/

/-- The state after a code of any kind is put on a stored session. -/
def State.deposit (id : Text) (code : Option Text) (expiry : Option Int) (st : State) : State :=
  match st.book.store.get? id with
  | none => st
  | some s =>
    let given := { s with authorizationCode := code, codeExpiresAt := expiry }
    { st with book := { st.book with store := st.book.store.put given } }

/-- The states that events and deposits lead to from a fresh issuer. -/
inductive Visited (i : Issuer) : State → Prop
  | initial (now : Int) (registry : Registry) : Visited i (.initial now registry)
  | after {st : State} (e : Event) (h : Visited i st) : Visited i (i.after st e)
  | deposit {st : State} (id : Text) (code : Option Text) (expiry : Option Int)
      (h : Visited i st) : Visited i (st.deposit id code expiry)

theorem made_after {i : Issuer} {st : State} (h : st.book.store.Made) (e : Event) :
    (i.after st e).book.store.Made := by
  cases e with
  | request r => exact (handle_step i r st).goesOn.made h
  | advance _ => exact h
  | trail _ => exact h
  | registry _ => exact h

/-- Whatever happens to an issuer, its store is what operations have made of an empty one. -/
theorem Visited.made {i : Issuer} {st : State} (h : Visited i st) : st.book.store.Made := by
  induction h with
  | initial now registry => exact Store.made_empty
  | after e _ ih => exact made_after ih e
  | deposit id code expiry _ ih =>
    unfold State.deposit
    split
    · exact ih
    · exact ih.put _

/-! ### Codes that are handed out -/

/-- **A code that is handed out is known just if it is handed out as it was put.** Let operations,
puts of any code among them, have made the store of an issuer, as they have wherever events and
deposits lead (`Visited.made`), and let no two sessions have one code. A request for
`/authorization` that is answered with 200 is answered with the code of a session, without the
blanks at its ends, and changes nothing in the book. The index has the code in the answer for that
session exactly if there was nothing to trim, and no other session has had the code since the
session was put last. -/
theorem handed_out_code_known_iff {i : Issuer} {st : State} {operations : List Store.Operation}
    (made : st.book.store = Store.empty.performAll operations)
    (distinct : Store.Exclusive fun s => st.book.store.get? s.id = some s)
    {r : Request} (isFor : r.IsFor .authorization) (granted : (i.handle r st).1.status = 200) :
    ∃ (s : Session) (code : Text) (g : AuthorizationRequest.Grant)
      (earlier later : List Store.Operation) (put : Session),
      (i.handle r st).1 = ⟨200, .json g.response⟩ ∧ (i.handle r st).2.book = st.book ∧
      r.sessionId = some s.id ∧ st.book.store.get? s.id = some s ∧
      s.authorizationCode = some code ∧ g.code = code.trim ∧
      operations = earlier ++ .put put :: later ∧ put.id = s.id ∧
      put.authorizationCode = some code ∧ Store.Unput s.id later ∧
      (st.book.store.getByCode? g.code = some s ↔ code.trim = code ∧
        Store.AloneThroughout s.id code ((Store.empty.performAll earlier).put put) later) := by
  obtain ⟨s, client, g, trail, counters, hfound, grants, -, hhandle⟩ := sent_of_status isFor granted
  obtain ⟨id, hid, named, hs, -⟩ := Book.session_ok hfound
  obtain ⟨code, hcurrent, htrimmed⟩ := grants.exists_code
  have hindexed : st.book.store.Indexed fun _ => True := Store.Made.indexed ⟨operations, made⟩
  obtain rfl : s.id = id := hindexed.keyed id s hs
  have halone : st.book.store.Alone s.id code := by
    intro other t ht htcode
    obtain rfl : t.id = other := hindexed.keyed other t ht
    exact distinct t s code ht hs htcode hcurrent
  rw [made] at hs halone
  obtain ⟨earlier, put, later, rfl, hput, hsame, unput, hleads⟩ :=
    Store.getByCode?_iff_alone hs named hcurrent halone
  rw [← made] at hs hleads
  refine ⟨s, code, g, earlier, later, put, by rw [hhandle], by rw [hhandle], hid, hs,
    (code?_eq_some.1 hcurrent).1, htrimmed, rfl, hput,
    hsame.trans (code?_eq_some.1 hcurrent).1, unput, ?_⟩
  rw [htrimmed]
  constructor
  · intro hknown
    -- the index has what is handed out, and it has nothing but the code as it was put
    obtain ⟨_, -, -, hheld⟩ := hindexed.sound.getByCode? hknown
    have hsame : code.trim = code := Option.some.inj (hheld.symm.trans hcurrent)
    exact ⟨hsame, hleads.1 (hsame ▸ hknown)⟩
  · rintro ⟨hsame, throughout⟩
    rw [hsame]
    exact hleads.2 throughout

namespace OneClient

/-- What made the store in which the session has its first code. -/
def givenOnce : List Store.Operation := [.put session, .put codedSession]

/-- Nothing is put but the session. -/
theorem id_of_givenOnce {s : Session} (h : Store.PutBy givenOnce s) : s.id = "a" := by
  simp only [Store.PutBy, givenOnce, List.mem_cons, Store.Operation.put.injEq, List.not_mem_nil,
    or_false] at h
  rcases h with rfl | rfl <;> rfl

theorem book_coded : coded.book = codedBook := by
  obtain ⟨_, _, -, hcoded⟩ := coded_eq
  rw [hcoded]

/-- The store in which the session is alone. -/
def lone (s : Session) (codes : Entries Text Text) : Store := ⟨[("a", s)], codes⟩

theorem id_of_lone {s t : Session} {codes : Entries Text Text} {id : Text}
    (ht : (lone s codes).get? id = some t) : id = "a" := by
  have hget : (lone s codes).get? id = if "a" = id then some s else none := rfl
  rw [hget] at ht
  split at ht
  · rename_i heq
    exact heq.symm
  · cases ht

/-- Where a session is alone, no two have one code. -/
theorem exclusive_lone (s : Session) (codes : Entries Text Text) :
    Store.Exclusive fun t => (lone s codes).get? t.id = some t :=
  fun _ _ _ ht ht' _ _ => (id_of_lone ht).trans (id_of_lone ht').symm

/-- The first code of the session is known when it is handed out. -/
theorem first_code_is_known :
    coded.book.store = Store.empty.performAll givenOnce ∧
      (Store.Exclusive fun s => coded.book.store.get? s.id = some s) ∧
      fetching.IsFor .authorization ∧ (issuer.handle fetching coded).1.status = 200 ∧
      ∃ (s : Session) (g : AuthorizationRequest.Grant),
        (issuer.handle fetching coded).1 = ⟨200, .json g.response⟩ ∧
        coded.book.store.getByCode? g.code = some s := by
  obtain ⟨_, _, -, hhandle⟩ := handle_fetching
  have hgranted : (issuer.handle fetching coded).1.status = 200 := by rw [hhandle]
  have hmade : coded.book.store = Store.empty.performAll givenOnce := by
    rw [book_coded]
    rfl
  have hexclusive : Store.Exclusive fun s => coded.book.store.get? s.id = some s := by
    rw [book_coded]
    exact exclusive_lone codedSession _
  obtain ⟨s, code, g, earlier, later, put, hanswer, -, hid, hs, hcode, -, hsplit, hput, hsame, -,
    hknown⟩ := handed_out_code_known_iff hmade hexclusive ⟨rfl, rfl⟩ hgranted
  have hsession : s = codedSession := by
    rw [← Option.some.inj hid, book_coded] at hs
    exact (Option.some.inj hs).symm
  subst hsession
  obtain rfl : "A" = code := Option.some.inj hcode
  refine ⟨hmade, hexclusive, ⟨rfl, rfl⟩, hgranted, _, g, hanswer, hknown.2 ⟨by decide, ?_⟩⟩
  have hexclusively : Store.Exclusive (Store.PutBy givenOnce) :=
    fun t t' _ ht ht' _ _ => (id_of_givenOnce ht).trans (id_of_givenOnce ht').symm
  rw [hsplit] at hexclusively
  rw [← hput]
  exact Store.aloneThroughout_of_put hexclusively (code?_eq_some.2 ⟨hsame, by decide⟩)

/-- A code with a blank at each end is handed out without them, and is not known. -/
theorem trimmed_code_is_unknown :
    ∃ st, st = opened.deposit "a" (some " A ") (some 15) ∧ Visited issuer st ∧
      (Store.Exclusive fun s => st.book.store.get? s.id = some s) ∧
      (issuer.handle fetching st).1 = ⟨200, .json grant.response⟩ ∧ grant.code = "A" ∧
      (issuer.handle fetching st).2.book.store.getByCode? "A" = none := by
  obtain ⟨trail, counters, happendable, hopened⟩ := opened_eq
  have hdeposit : opened.deposit "a" (some " A ") (some 15) = ⟨5, registry,
      ⟨lone (given " A " (some 15)) [(" A ", "a")], [], 1, 0⟩, trail, counters⟩ := by
    rw [hopened]
    rfl
  have hs : (lone (given " A " (some 15)) [(" A ", "a")]).get? "a" =
      some (given " A " (some 15)) := rfl
  obtain ⟨_, _, -, hhandle⟩ := handle_of_trim (by decide)
    ⟨lone (given " A " (some 15)) [(" A ", "a")], [], 1, 0⟩ hs happendable counters
  refine ⟨_, rfl, .deposit _ _ _ (.after _ (.initial 5 registry)), ?_, ?_, rfl, ?_⟩
  · rw [hdeposit]
    exact exclusive_lone _ _
  · rw [hdeposit, hhandle]
  · rw [hdeposit, hhandle]
    rfl

end OneClient

end Issuer

end Issuance
