import Issuance.Proofs.Audit.Occurrence

/-!
# Issuance.Proofs.Audit.History

**The history of a session** is what a trail tells of it, in order. It is `Exact` if it says neither
more nor less than what has become of the session: it tells of a start where the session is stored,
of a code handed out as often as one was, of a token where one is bound, and of a replay where the
token is revoked, each in its place. An exact history stays exact when what happens to the session is
added at its end.
-/

namespace Issuance

namespace Audit

/-- What happened to a session, in order. -/
def history (id : Text) (told : List Occurrence) : List EventType :=
  (told.filter fun o => o.sessionId = id).map Occurrence.type

theorem history_concat (id : Text) (told : List Occurrence) (o : Occurrence) :
    history id (told ++ [o]) =
      if o.sessionId = id then history id told ++ [o.type] else history id told := by
  unfold history
  rw [List.filter_append, List.filter_singleton, List.map_append]
  by_cases h : o.sessionId = id
  · rw [if_pos h]
    simp [h]
  · rw [if_neg h]
    simp [h]

/-- Whatever is of the second type comes after something of the first. -/
def Precedes (a b : EventType) (types : List EventType) : Prop :=
  ∀ earlier later, types = earlier ++ b :: later → a ∈ earlier

section Precedes

variable {a b c : EventType} {types : List EventType}

theorem precedes_of_not_mem (h : b ∉ types) : Precedes a b types := by
  rintro earlier later rfl
  exact absurd (List.mem_append_right _ List.mem_cons_self) h

/-- What is added last comes after all the others. -/
theorem Precedes.concat (h : Precedes a b types) (hlast : c = b → a ∈ types) :
    Precedes a b (types ++ [c]) := by
  intro earlier later heq
  rcases List.eq_nil_or_concat later with rfl | ⟨later, d, rfl⟩
  · obtain ⟨rfl, hb⟩ := List.append_inj' heq rfl
    exact hlast (List.cons.inj hb).1
  · rw [List.concat_eq_append, ← List.cons_append, ← List.append_assoc] at heq
    exact h earlier later (List.append_inj' heq rfl).1

theorem Precedes.mem (h : Precedes a b types) (hb : b ∈ types) : a ∈ types := by
  obtain ⟨earlier, later, rfl⟩ := List.append_of_mem hb
  exact List.mem_append_left _ (h earlier later rfl)

end Precedes

/-- A history is exactly what has become of a session, to which codes were handed out a given number
of times. -/
structure Exact (types : List EventType) (stored : Option Session) (sent : Nat) : Prop where
  /-- There is one start if the session is stored, and otherwise none. -/
  started : types.count .start = if stored.isSome then 1 else 0
  startFirst : ∀ type, type ≠ .start → Precedes .start type types
  sent : types.count .authorizationSent = sent
  /-- There is one token if one is bound, and otherwise none. -/
  issued : types.count .accessTokenIssued =
    if (stored.bind Session.accessToken).isSome then 1 else 0
  replayed : .codeReplayed ∈ types ↔ ∃ s, stored = some s ∧ s.tokenRevoked = true
  issuedFirst : Precedes .accessTokenIssued .codeReplayed types

namespace Exact

variable {types : List EventType} {stored : Option Session} {s s' : Session} {sent : Nat}

theorem unopened : Exact [] none 0 where
  started := rfl
  startFirst := fun _ _ => precedes_of_not_mem List.not_mem_nil
  sent := rfl
  issued := rfl
  replayed := ⟨nofun, fun ⟨_, h, _⟩ => nomatch h⟩
  issuedFirst := precedes_of_not_mem List.not_mem_nil

/-- A session that is not stored has no history. -/
theorem eq_nil (h : Exact types none sent) : types = [] := by
  have hstart : .start ∉ types := List.count_eq_zero.1 h.started
  refine List.eq_nil_iff_forall_not_mem.2 fun type htype => ?_
  by_cases heq : type = .start
  · exact hstart (heq ▸ htype)
  · exact hstart ((h.startFirst type heq).mem htype)

theorem start_mem (h : Exact types (some s) sent) : .start ∈ types :=
  List.count_pos_iff.1 (by rw [h.started]; exact Nat.one_pos)

theorem issued_mem (h : Exact types (some s) sent) (spent : s.accessToken.isSome) :
    .accessTokenIssued ∈ types := by
  refine List.count_pos_iff.1 ?_
  rw [h.issued, Option.bind_some, if_pos spent]
  exact Nat.one_pos

/-- What changes neither the token of a session nor its mark needs no record. -/
theorem unchanged (h : Exact types (some s) sent) (token : s'.accessToken = s.accessToken)
    (mark : s'.tokenRevoked = s.tokenRevoked) : Exact types (some s') sent where
  started := h.started
  startFirst := h.startFirst
  sent := h.sent
  issued := by
    rw [h.issued, Option.bind_some, Option.bind_some, token]
  replayed := by
    rw [h.replayed]
    simp [mark]
  issuedFirst := h.issuedFirst

/-- A session that has just been opened has a start. -/
theorem opened (free : s.accessToken = none) (unmarked : s.tokenRevoked = false) :
    Exact [.start] (some s) 0 where
  started := rfl
  startFirst := fun type htype => precedes_of_not_mem (by simpa using htype)
  sent := rfl
  issued := by
    rw [Option.bind_some, free]
    rfl
  replayed := by simp [unmarked]
  issuedFirst := precedes_of_not_mem (by decide)

/-- What is added at the end comes after the start. What is left to show is that it fits what became
of the session. -/
theorem concat (h : Exact types (some s) sent) {last : EventType} (later : last ≠ .start)
    (issued : types.count .accessTokenIssued + [last].count .accessTokenIssued =
      if s'.accessToken.isSome then 1 else 0)
    (replayed : .codeReplayed ∈ types ++ [last] ↔ s'.tokenRevoked = true)
    (issuedFirst : last = .codeReplayed → .accessTokenIssued ∈ types) :
    Exact (types ++ [last]) (some s') (sent + [last].count .authorizationSent) where
  started := by
    have hnone : [last].count .start = 0 := List.count_eq_zero.2 (by simpa using later.symm)
    rw [List.count_append, h.started, hnone]
    rfl
  startFirst := fun type htype => (h.startFirst type htype).concat fun _ => h.start_mem
  sent := by rw [List.count_append, h.sent]
  issued := by rw [List.count_append, issued, Option.bind_some]
  replayed := by
    rw [replayed]
    simp
  issuedFirst := h.issuedFirst.concat issuedFirst

/-- A code is handed out. -/
theorem hand (h : Exact types (some s) sent) :
    Exact (types ++ [.authorizationSent]) (some s) (sent + 1) := by
  refine h.concat nofun h.issued ?_ nofun
  rw [List.mem_append, h.replayed]
  simp

/-- A token is bound. -/
theorem issue (h : Exact types (some s) sent) (free : s.accessToken = none)
    (token : s'.accessToken.isSome) (mark : s'.tokenRevoked = s.tokenRevoked) :
    Exact (types ++ [.accessTokenIssued]) (some s') sent := by
  refine h.concat nofun ?_ ?_ nofun
  · rw [h.issued, Option.bind_some, free, if_pos token]
    rfl
  · rw [List.mem_append, h.replayed]
    simp [mark]

/-- The code of a bound token is presented again. -/
theorem replay (h : Exact types (some s) sent) (spent : s.accessToken.isSome)
    (token : s'.accessToken = s.accessToken) (mark : s'.tokenRevoked = true) :
    Exact (types ++ [.codeReplayed]) (some s') sent := by
  refine h.concat nofun ?_ ?_ fun _ => h.issued_mem spent
  · rw [h.issued, Option.bind_some, token]
    rfl
  · simp [mark]

end Exact

end Audit

end Issuance
