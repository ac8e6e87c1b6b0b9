import Issuance.Proofs.Session.History
import Issuance.Proofs.Session.SingleUse

/-!
# Issuance.Proofs.Session.Standing

**The status of a session and the look-up of its code agree.** They decide about expiry each in its
own way. Where a code has no time at which it lapses, the status takes it for live and the look-up
for expired; and the status asks whether a token says something, the look-up whether there is one.
They agree because such sessions do not come about: a code and its time are written together, and
every token that is bound has its type in front (`Timed`).

A copy can be stale and is put back whole, so this has to be carried through every copy that is held
as well as through the store. `origin_of_known` says once where the sessions come from that are held
or stored after a call.
-/

namespace Issuance

namespace Session

/-- A session whose code, if it has one, lapses at some time, and whose token, if it has one, says
something. -/
structure Timed (s : Session) : Prop where
  code : s.code?.isSome → s.codeExpiresAt.isSome
  token : s.accessToken ≠ some []

namespace Timed

/-- A session that has neither a code nor a token. -/
theorem of_fresh {s : Session} (code : s.authorizationCode = none) (token : s.accessToken = none) :
    s.Timed where
  code := by
    unfold code?
    rw [code]
    exact (nomatch ·)
  token := by
    rw [token]
    exact (nomatch ·)

theorem keepToken {previous s : Session} (h : previous.Timed) (h' : s.Timed) :
    (Store.keepToken previous s).Timed := by
  unfold Store.keepToken
  cases ht : previous.accessToken with
  | none => exact h'
  | some token =>
    have hfilled : some token ≠ some [] := ht ▸ h.token
    exact ⟨h'.code, hfilled⟩

/-- The type stands in front of a token that is bound. -/
theorem withToken {s : Session} (h : s.Timed) (plan : Plan) (now : Int) (b : Book) :
    (Book.withToken plan now (b.nextToken plan) s).Timed where
  code := h.code
  token := by
    intro heq
    cases heq

end Timed

/-! ### The two decisions -/

/-- Neither the session nor its code has lapsed. -/
def IsLiveAt (s : Session) (now : Int) : Prop :=
  now ≤ s.expiresAt ∧ ∃ expiry, s.codeExpiresAt = some expiry ∧ now ≤ expiry

theorem statusAt_of_live {s : Session} {now : Int} (free : s.accessToken = none)
    (hcode : s.code?.isSome) (live : s.IsLiveAt now) : s.statusAt now = .codeIssued := by
  obtain ⟨hlive, expiry, hexpiry, hcodeLive⟩ := live
  have hexpired : s.isExpiredAt now = false := by simpa [isExpiredAt] using hlive
  unfold statusAt
  rw [hexpired, if_neg Bool.false_ne_true, free, if_neg (by decide), if_pos hcode, hexpiry]
  dsimp only
  rw [if_neg (Int.not_lt.2 hcodeLive)]

/-- A code that has lapsed is not taken for live, because there is a time at which it lapses. -/
theorem Timed.statusAt_of_not_live {s : Session} (h : s.Timed) {now : Int}
    (free : s.accessToken = none) (hcode : s.code?.isSome) (lapsed : ¬ s.IsLiveAt now) :
    s.statusAt now = .expired := by
  obtain ⟨expiry, hexpiry⟩ := Option.isSome_iff_exists.1 (h.code hcode)
  unfold statusAt
  by_cases hexpired : s.isExpiredAt now = true
  · rw [if_pos hexpired]
  · have hlive : now ≤ s.expiresAt := by simpa [isExpiredAt] using hexpired
    have hcodeLapsed : expiry < now :=
      Int.not_le.1 fun hcodeLive => lapsed ⟨hlive, expiry, hexpiry, hcodeLive⟩
    rw [if_neg hexpired, free, if_neg (by decide), if_pos hcode, hexpiry]
    dsimp only
    rw [if_pos hcodeLapsed]

/-- A code that the index has is looked up just where a token is bound or the code is live. -/
theorem Book.sessionOfCode_eq_ok_iff {now : Int} {code : Text} {b : Book} {s : Session}
    (hne : code ≠ []) (leads : b.store.getByCode? code = some s) :
    b.sessionOfCode now (some code) = .ok s ↔ s.accessToken.isSome ∨ s.IsLiveAt now := by
  constructor
  · intro h
    obtain ⟨-, -, hlive⟩ := sessionOfCode_ok h
    cases ht : s.accessToken with
    | none => exact Or.inr (hlive ht)
    | some token => exact Or.inl rfl
  · rintro (bound | ⟨live, expiry, hexpiry, codeLive⟩)
    · exact sessionOfCode_of_bound hne leads bound
    · exact sessionOfCode_of_live hne leads live hexpiry codeLive

/-- The look-up of a code finds the session that the index has for it, or none. -/
theorem Book.exists_fault_iff {now : Int} {code : Text} {b : Book} {s : Session}
    (leads : b.store.getByCode? code = some s) :
    (∃ fault, b.sessionOfCode now (some code) = .error fault) ↔
      b.sessionOfCode now (some code) ≠ .ok s := by
  cases hfound : b.sessionOfCode now (some code) with
  | error fault => exact iff_of_true ⟨fault, rfl⟩ (nomatch ·)
  | ok found =>
    obtain ⟨-, hfound', -⟩ := sessionOfCode_ok hfound
    obtain rfl : found = s := Option.some.inj (hfound'.symm.trans leads)
    refine iff_of_false ?_ fun h => h rfl
    rintro ⟨_, h⟩
    cases h

namespace Desk

/-! ### Sessions that are held or stored -/

/-- A session of which a copy is held, or that is stored. -/
def Knows (d : Desk) (s : Session) : Prop :=
  s ∈ d.copies ∨ ∃ id, d.book.store.get? id = some s

/-- Where a session comes from that is held or stored after a call. -/
inductive Origin (plan : Plan) (now : Int) (d : Desk) (call : Call) : Session → Prop
  | known {s : Session} (known : d.Knows s) : Origin plan now d call s
  | fresh (r : SessionRequest) : Origin plan now d call (d.book.newSession plan now r).1
  | coded {copy : Nat} {s : Session} (called : call = .issueCode copy)
      (held : d.copies[copy]? = some s) :
      Origin plan now d call (s.withCode (plan.generators.secret (d.book.secretsDrawn + 1))
        (now + plan.lifetimes.code))
  | kept {previous s : Session} (known : d.Knows previous) (origin : Origin plan now d call s) :
      Origin plan now d call (Store.keepToken previous s)
  | bound {s : Session} (known : d.Knows s) :
      Origin plan now d call (Book.withToken plan now (d.book.nextToken plan) s)
  | revoked {s : Session} (known : d.Knows s) :
      Origin plan now d call { s with tokenRevoked := true }

namespace Origin

variable {plan : Plan} {now : Int} {d : Desk} {call : Call} {s : Session}

/-- What is stored after a put was stored before, or has been put over what was. -/
theorem put (h : Origin plan now d call s) {id : Text} {stored : Session}
    (hstored : (d.book.store.put s).get? id = some stored) : Origin plan now d call stored := by
  rw [Store.get?_put] at hstored
  split at hstored
  · cases hprevious : d.book.store.get? s.id with
    | none =>
      rw [hprevious] at hstored
      cases hstored
      exact h
    | some previous =>
      rw [hprevious] at hstored
      cases hstored
      exact .kept (Or.inr ⟨s.id, hprevious⟩) h
  · exact .known (Or.inr ⟨id, hstored⟩)

theorem withSession (h : Origin plan now d call s) {id other : Text} {stored : Session}
    (hstored : (d.book.store.withSession id s).get? other = some stored) :
    Origin plan now d call stored := by
  rw [Store.get?_withSession] at hstored
  split at hstored
  · cases hstored
    exact h
  · exact .known (Or.inr ⟨other, hstored⟩)

theorem revokeToken {b : Book} (sameStore : b.store = d.book.store) (held : Session) (id : Text)
    {stored : Session} (hstored : (b.revokeToken held).2.store.get? id = some stored) :
    Origin plan now d call stored := by
  rcases Book.store_revokeToken held b with ⟨-, hb⟩ | ⟨previous, hprevious, hb⟩
  · rw [hb, sameStore] at hstored
    exact .known (Or.inr ⟨id, hstored⟩)
  · rw [sameStore] at hprevious
    rw [hb, sameStore] at hstored
    exact (Origin.revoked (Or.inr ⟨held.id, hprevious⟩)).withSession hstored

theorem issueToken (held : Session) (id : Text) {stored : Session}
    (hstored : (d.book.issueToken plan now held).2.store.get? id = some stored) :
    Origin plan now d call stored := by
  have hstep := Book.issueToken_step plan now held d.book
  generalize d.book.issueToken plan now held = result at hstored hstep
  cases hstep with
  | bound previous _ found _ => exact (Origin.bound (Or.inr ⟨held.id, found⟩)).withSession hstored
  | replayed drawn _ _ => exact revokeToken (b := { d.book with secretsDrawn := drawn }) rfl held id hstored
  | missing _ _ => exact .known (Or.inr ⟨id, hstored⟩)

end Origin

/-- What a look-up hands out is known already. -/
theorem knows_of_hand {d : Desk} {found : Except Fault Session}
    (hfound : ∀ t, found = .ok t → d.Knows t) {s : Session} (h : (d.hand found).2.Knows s) :
    d.Knows s := by
  cases found with
  | error fault => exact h
  | ok t =>
    rcases h with h | h
    · rcases List.mem_append.1 h with h | h
      · exact Or.inl h
      · obtain rfl := List.mem_singleton.1 h
        exact hfound s rfl
    · exact Or.inr h

/-- What is known after a call with a copy was known before, or is known after the operation on the
copy. -/
theorem knows_of_onCopy {d : Desk} {copy : Nat} {operation : Session → Answer × Desk} {s : Session}
    (h : (d.onCopy copy operation).2.Knows s) :
    d.Knows s ∨ ∃ held, d.copies[copy]? = some held ∧ (operation held).2.Knows s := by
  rcases onCopy_cases d copy operation with hnone | ⟨held, hcopy, hsome⟩
  · rw [hnone] at h
    exact Or.inl h
  · rw [hsome] at h
    exact Or.inr ⟨held, hcopy, h⟩

/-- Where the sessions come from that are held or stored after a call. -/
theorem origin_of_known {plan : Plan} {now : Int} {d : Desk} {call : Call} {s : Session}
    (h : (d.step plan now call).2.Knows s) : Origin plan now d call s := by
  cases call with
  | newSession r =>
    rcases h with h | ⟨id, h⟩
    · rcases List.mem_append.1 h with h | h
      · exact .known (Or.inl h)
      · obtain rfl := List.mem_singleton.1 h
        exact .fresh r
    · exact .known (Or.inr ⟨id, h⟩)
  | create r =>
    rcases h with h | ⟨id, h⟩
    · exact .known (Or.inl h)
    · change ((d.book.newSession plan now r).2.save _ r).store.get? id = some s at h
      rw [Book.store_save] at h
      exact (Origin.fresh r).put h
  | save copy r =>
    rcases knows_of_onCopy h with h | ⟨held, hcopy, h | ⟨id, h⟩⟩
    · exact .known h
    · exact .known (Or.inl h)
    · change (d.book.save held r).store.get? id = some s at h
      rw [Book.store_save] at h
      exact (Origin.known (Or.inl (List.mem_of_getElem? hcopy))).put h
  | session id =>
    refine .known (knows_of_hand (fun t ht => ?_) h)
    obtain ⟨id', -, -, hget, -⟩ := Book.session_ok ht
    exact Or.inr ⟨id', hget⟩
  | sessionOfCode code =>
    refine .known (knows_of_hand (fun t ht => ?_) h)
    cases code with
    | none => cases ht
    | some code =>
      obtain ⟨-, hget, -⟩ := Book.sessionOfCode_ok ht
      obtain ⟨id, -, -, hstored⟩ := Store.getByCode?_eq_some.1 hget
      exact Or.inr ⟨id, hstored⟩
  | issueCode copy =>
    rcases knows_of_onCopy h with h | ⟨held, hcopy, h⟩
    · exact .known h
    · -- the code is written on the copy that was handed in, and then the copy is put
      have hcoded : Origin plan now d (.issueCode copy) _ := .coded rfl hcopy
      rcases h with h | ⟨id, h⟩
      · rcases List.mem_or_eq_of_mem_set h with h | rfl
        · exact .known (Or.inl h)
        · exact hcoded
      · exact hcoded.put h
  | issueToken copy =>
    rcases knows_of_onCopy h with h | ⟨held, -, h⟩
    · exact .known h
    · rcases hissue : d.book.issueToken plan now held with ⟨_ | _, book⟩ <;> rw [hissue] at h
      all_goals
        rcases h with h | ⟨id, h⟩
        · exact .known (Or.inl h)
        · refine Origin.issueToken held id ?_
          rw [hissue]
          exact h
  | revokeToken copy =>
    rcases knows_of_onCopy h with h | ⟨held, -, h⟩
    · exact .known h
    · rcases hrevoke : d.book.revokeToken held with ⟨_ | _, book⟩ <;> rw [hrevoke] at h
      all_goals
        rcases h with h | ⟨id, h⟩
        · exact .known (Or.inl h)
        · refine Origin.revokeToken (b := d.book) rfl held id ?_
          rw [hrevoke]
          exact h

theorem goesOn_step (plan : Plan) (now : Int) (d : Desk) (call : Call) :
    d.book.GoesOn (d.step plan now call).2.book := by
  have h := effect_step plan now d call
  generalize (d.step plan now call).2.book = book at h
  cases h with
  | idle => exact Book.GoesOn.refl _
  | drawn r => exact Book.goesOn_draw d.book 1 0
  | created r => exact (Book.goesOn_draw d.book 1 0).trans (Book.goesOn_save _ r _)
  | saved s r => exact Book.goesOn_save s r d.book
  | coded s => exact Book.goesOn_issueCode plan now s d.book
  | exchanged s => exact Book.goesOn_issueToken plan now s d.book
  | revoked s => exact Book.goesOn_revokeToken s d.book

/-! ### What every run keeps -/

namespace Origin

variable {plan : Plan} {now : Int} {d : Desk} {call : Call} {s : Session}

theorem timed (h : Origin plan now d call s) (known : ∀ t, d.Knows t → t.Timed) : s.Timed := by
  induction h with
  | known h => exact known _ h
  | fresh r => exact .of_fresh rfl rfl
  | coded called held =>
    -- the code and the time at which it lapses are written together
    exact ⟨fun _ => rfl, (known _ (Or.inl (List.mem_of_getElem? held))).token⟩
  | kept h _ ih => exact (known _ h).keepToken ih
  | bound h => exact (known _ h).withToken plan now d.book
  | revoked h => exact ⟨(known _ h).code, (known _ h).token⟩

/-- A code was known under that id before, or this call has drawn it for the copy that it was
given. -/
theorem code (h : Origin plan now d call s) {code : Text} (hcode : s.code? = some code) :
    (∃ t, d.Knows t ∧ t.id = s.id ∧ t.code? = some code) ∨
      ∃ copy held, call = .issueCode copy ∧ d.copies[copy]? = some held ∧ held.id = s.id ∧
        code = plan.generators.secret (d.book.secretsDrawn + 1) := by
  induction h with
  | known h => exact Or.inl ⟨_, h, rfl, hcode⟩
  | fresh r => cases hcode
  | coded called held =>
    have hgiven := (code?_eq_some.1 hcode).1
    exact Or.inr ⟨_, _, called, held, rfl, (Option.some.inj hgiven).symm⟩
  | kept _ _ ih =>
    rw [code?_congr (Store.authorizationCode_keepToken _ _)] at hcode
    rw [Store.id_keepToken]
    exact ih hcode
  | bound h => exact Or.inl ⟨_, h, rfl, hcode⟩
  | revoked h => exact Or.inl ⟨_, h, rfl, hcode⟩

end Origin

theorem secretsDrawn_issueCode (plan : Plan) (now : Int) {d : Desk} {copy : Nat} {held : Session}
    (hcopy : d.copies[copy]? = some held) :
    (d.step plan now (.issueCode copy)).2.book.secretsDrawn = d.book.secretsDrawn + 1 := by
  show (d.onCopy copy _).2.book.secretsDrawn = _
  unfold onCopy
  rw [hcopy]
  rfl

/-- What holds of a desk at which every session was opened. A code is a secret that was drawn for
one id, though there may be many copies with that id. -/
structure Orderly (plan : Plan) (d : Desk) : Prop where
  made : d.book.store.Made
  timed : ∀ s, d.Knows s → s.Timed
  drawn : ∀ s code, d.Knows s → s.code? = some code →
    Book.Drawn plan.generators.secret d.book.secretsDrawn code
  exclusive : Book.Distinct plan.generators.secret d.book.secretsDrawn → Store.Exclusive d.Knows

theorem not_knows_empty (s : Session) : ¬ empty.Knows s := by
  rintro (h | ⟨id, h⟩) <;> cases h

theorem orderly_empty (plan : Plan) : empty.Orderly plan where
  made := Store.made_empty
  timed := fun s hs => absurd hs (not_knows_empty s)
  drawn := fun s _ hs => absurd hs (not_knows_empty s)
  exclusive := fun _ s _ _ hs => absurd hs (not_knows_empty s)

theorem Orderly.step {plan : Plan} {d : Desk} (h : d.Orderly plan) (now : Int) (call : Call) :
    (d.step plan now call).2.Orderly plan := by
  have goesOn := goesOn_step plan now d call
  -- a code that was known is not the one that is drawn now
  have hnew : Book.Distinct plan.generators.secret (d.step plan now call).2.book.secretsDrawn →
      ∀ {copy held t}, call = .issueCode copy → d.copies[copy]? = some held → d.Knows t →
        t.code? ≠ some (plan.generators.secret (d.book.secretsDrawn + 1)) := by
    rintro distinct copy held t rfl hcopy ht hcode
    rw [secretsDrawn_issueCode plan now hcopy] at distinct
    exact distinct.next_ne (h.drawn t _ ht hcode) rfl
  exact {
    made := goesOn.made h.made
    timed := fun s hs => (origin_of_known hs).timed h.timed
    drawn := by
      intro s code hs hcode
      rcases (origin_of_known hs).code hcode with ⟨t, ht, -, hcode⟩ |
        ⟨copy, held, rfl, hcopy, -, rfl⟩
      · exact (h.drawn t code ht hcode).mono goesOn.secrets
      · rw [secretsDrawn_issueCode plan now hcopy]
        exact Book.Drawn.next _ _
    exclusive := by
      intro distinct s s' code hs hs' hcode hcode'
      rcases (origin_of_known hs).code hcode with ⟨t, ht, hid, htcode⟩ |
          ⟨copy, held, hcall, hcopy, hid, rfl⟩ <;>
        rcases (origin_of_known hs').code hcode' with ⟨t', ht', hid', htcode'⟩ |
          ⟨copy', held', hcall', hcopy', hid', hcode'⟩
      · rw [← hid, ← hid']
        exact h.exclusive (distinct.mono goesOn.secrets) t t' code ht ht' htcode htcode'
      · rw [hcode'] at htcode
        exact absurd htcode (hnew distinct hcall' hcopy' ht)
      · exact absurd htcode' (hnew distinct hcall hcopy ht')
      · -- both were written on the copy that this call was given
        rw [hcall] at hcall'
        cases hcall'
        rw [hcopy] at hcopy'
        cases hcopy'
        exact hid.symm.trans hid' }

theorem Orderly.run {plan : Plan} {d : Desk} (h : d.Orderly plan) (calls : List (Int × Call)) :
    (d.run plan calls).2.Orderly plan := by
  induction calls generalizing d with
  | nil => exact h
  | cons call calls ih => exact ih (h.step call.1 call.2)

/-- **The status of a session and the look-up of its code agree.** Let calls be made of a fresh
lifecycle, in whatever order, at whatever times and with copies however stale. Let the index have a
code for a session after them. The session is stored with that code, the only one so while secrets
do not repeat; and a token that it has says something. At every time the look-up of the code finds
the session exactly if a token is bound or the status is that a code is issued. It fails exactly if
none is bound and the status is that the session is expired. -/
theorem status_agrees_with_lookup (plan : Plan) (calls : List (Int × Call)) {code : Text}
    {s : Session} (leads : (empty.run plan calls).2.book.store.getByCode? code = some s) :
    let book := (empty.run plan calls).2.book
    (book.store.get? s.id = some s ∧ s.code? = some code ∧ s.accessToken ≠ some [] ∧
      (Book.Distinct plan.generators.secret book.secretsDrawn → ∀ id other,
        book.store.get? id = some other → other.code? = some code → other = s)) ∧
    ∀ now,
      (book.sessionOfCode now (some code) = .ok s ↔
        s.accessToken.isSome ∨ s.statusAt now = .codeIssued) ∧
      ((∃ fault, book.sessionOfCode now (some code) = .error fault) ↔
        s.accessToken = none ∧ s.statusAt now = .expired) := by
  intro book
  have orderly : (empty.run plan calls).2.Orderly plan := (orderly_empty plan).run calls
  have indexed : Store.Indexed (fun _ => True) book.store := orderly.made.indexed
  obtain ⟨id, -, hget, hcode⟩ := indexed.sound.getByCode? leads
  obtain rfl : s.id = id := indexed.keyed id s hget
  have timed : s.Timed := orderly.timed s (Or.inr ⟨s.id, hget⟩)
  have hfilled : s.code?.isSome := by rw [hcode]; rfl
  refine ⟨⟨hget, hcode, timed.token, fun distinct id other hother hsame => ?_⟩, fun now => ?_⟩
  · have hid := orderly.exclusive distinct other s code (Or.inr ⟨id, hother⟩)
      (Or.inr ⟨s.id, hget⟩) hsame hcode
    rw [← indexed.keyed id other hother, hid] at hother
    exact Option.some.inj (hother.symm.trans hget)
  · have hok : book.sessionOfCode now (some code) = .ok s ↔ s.accessToken.isSome ∨ s.IsLiveAt now :=
      Book.sessionOfCode_eq_ok_iff (code?_eq_some.1 hcode).2 leads
    rw [Book.exists_fault_iff (b := book) leads, ne_eq, hok]
    cases ht : s.accessToken with
    | some token => simp
    | none =>
      -- without a token both ask whether the code is live
      by_cases live : s.IsLiveAt now
      · simp [live, statusAt_of_live ht hfilled live]
      · simp [live, timed.statusAt_of_not_live ht hfilled live]

/-- Two copies of one session are looked up. The first is given a code; the second, stale by then,
is put back without one, and is then given another. -/
def staleCalls : List (Int × Call) :=
  [(5, .create plainRequest), (5, .session (some "a")), (5, .session (some "a")),
    (6, .issueCode 0), (6, .save 1 plainRequest), (7, .issueCode 1)]

/-- The second code is found to the last second of its time, and after it the session counts as
expired. -/
theorem code_lapses_with_status :
    let book := (empty.run letterPlan staleCalls).2.book
    ∃ s, book.store.getByCode? "B" = some s ∧
      (s.statusAt 17 = .codeIssued ∧ book.sessionOfCode 17 (some "B") = .ok s) ∧
      (s.accessToken = none ∧ s.statusAt 18 = .expired ∧
        ∃ fault, book.sessionOfCode 18 (some "B") = .error fault) := by
  intro book
  obtain ⟨s, leads, free, live, lapsed⟩ : ∃ s, book.store.getByCode? "B" = some s ∧
      s.accessToken = none ∧ s.statusAt 17 = .codeIssued ∧ s.statusAt 18 = .expired :=
    ⟨_, rfl, rfl, by decide, by decide⟩
  obtain ⟨-, agrees⟩ := status_agrees_with_lookup letterPlan staleCalls leads
  exact ⟨s, leads, ⟨live, (agrees 17).1.2 (Or.inr live)⟩, free, lapsed,
    (agrees 18).2.2 ⟨free, lapsed⟩⟩

end Desk

end Session

end Issuance
