import Issuance.Proofs.Audit.Head

/-!
# Issuance.Proofs.Audit.Failure

**An append that fails writes nothing.** Three things can prevent an event from being added to a trail
that is free: the file with the last hash is no text, what it holds is no hash, or the event cannot be
written as UTF-8. Each of them shows before anything is written, and nothing else makes an append fail
(`append_eq_error_iff`). So the files are as they were, and the next event is linked as if the one
that failed had never been tried (`failed_append_writes_nothing`).
-/

namespace Issuance

namespace Audit

namespace Trail

variable {trail : Trail} {event : List (Text × Json)} {f : Fault}

/-! ### What prevents an append -/

/-- What prevents an event from being added, given the file with the last hash: there are bytes in it
that are no text, or a text that is no hash, or the event has a lone surrogate in one of its texts. -/
inductive Prevents (state : Option Bytes) (event : List (Text × Json)) : Fault → Prop
  | stateNotText {bs : Bytes} : state = some bs → Verdict.stateText? bs = none →
    Prevents state event .stateNotText
  | corruptState {bs : Bytes} {t : Text} : state = some bs → Verdict.stateText? bs = some t →
    t ≠ [] → isHash t = false → Prevents state event .corruptState
  | eventNotText {previous t : Text} : lastHash state = .ok previous →
    Json.Mentions t (.obj (unlinked event)) → ¬ t.IsScalar → Prevents state event .eventNotText

/-- A head that cannot be read prevents every append. -/
theorem prevents_of_no_head {state : Option Bytes} (h : lastHash state = .error f)
    (event : List (Text × Json)) : Prevents state event f := by
  cases state with
  | none => cases h
  | some bs =>
    cases htext : Verdict.stateText? bs with
    | none =>
      rw [lastHash_of_no_text htext] at h
      cases h
      exact .stateNotText rfl htext
    | some t =>
      rw [lastHash_of_text htext] at h
      split at h
      · cases h
      · rename_i hne
        split at h
        · cases h
        · rename_i hhash
          cases h
          exact .corruptState rfl htext hne (Bool.eq_false_iff.2 hhash)

/-- What is prevented fails, and the files stay as they are. -/
theorem Prevents.append (h : Prevents trail.state? event f) (free : trail ≠ .blocked) :
    trail.append event = (.error f, .directory trail.log? trail.state? true) := by
  cases h with
  | stateNotText hstate htext =>
    refine append_of_no_head free ?_ event
    rw [hstate, lastHash_of_no_text htext]
  | corruptState hstate htext hne hhash =>
    refine append_of_no_head free ?_ event
    rw [hstate, lastHash_of_text htext, if_neg hne, if_neg (Bool.eq_false_iff.1 hhash)]
  | eventNotText hlast hmention hlone =>
    have hloggable : ¬ IsLoggable event := fun h => hlone (h _ hmention)
    exact append_of_no_line free hlast (line_of_not_loggable (pairs_of_lastHash hlast) hloggable)

/-- **Nothing else makes an append fail.** -/
theorem append_eq_error_iff (free : trail ≠ .blocked) :
    (trail.append event).1 = .error f ↔ Prevents trail.state? event f := by
  constructor
  · intro h
    cases hlast : lastHash trail.state? with
    | error f' =>
      rw [append_of_no_head free hlast] at h
      cases h
      exact prevents_of_no_head hlast event
    | ok previous =>
      by_cases hloggable : IsLoggable event
      · obtain ⟨bs, hash, hline⟩ := line_of_loggable (pairs_of_lastHash hlast) hloggable
        rw [append_of_line free hlast hline] at h
        cases h
      · obtain ⟨t, hmention, hlone⟩ := not_isLoggable_iff.1 hloggable
        have hprevents : Prevents trail.state? event .eventNotText :=
          .eventNotText hlast hmention hlone
        rw [hprevents.append free] at h
        cases h
        exact hprevents
  · intro h
    rw [h.append free]

/-! ### What a failure leaves -/

/-- The trail with another file of the last hash, such as one that has been repaired. -/
def withState : Trail → Option Bytes → Trail
  | missing, none => missing
  | missing, some bs => directory none (some bs) false
  | blocked, _ => blocked
  | directory log _ locked, state => directory log state locked

theorem log?_withState (trail : Trail) (state : Option Bytes) :
    (trail.withState state).log? = trail.log? := by
  cases trail <;> cases state <;> rfl

theorem state?_withState (free : trail ≠ .blocked) (state : Option Bytes) :
    (trail.withState state).state? = state := by
  cases trail with
  | blocked => exact absurd rfl free
  | missing => cases state <;> rfl
  | directory log state' locked => rfl

theorem withState_ne_blocked (free : trail ≠ .blocked) (state : Option Bytes) :
    trail.withState state ≠ .blocked := by
  cases trail with
  | blocked => exact absurd rfl free
  | missing => cases state <;> exact nofun
  | directory log state' locked => exact nofun

/-- An attempt leaves no trace: the files are as they were, and whatever is appended afterwards,
possibly over another file of the last hash, comes to what it would have come to without it. -/
structure LeavesNoTrace (before after : Trail) : Prop where
  log : after.log? = before.log?
  state : after.state? = before.state?
  later : ∀ state event, (after.withState state).append event =
    (before.withState state).append event

theorem leavesNoTrace (free : trail ≠ .blocked) :
    trail.LeavesNoTrace (.directory trail.log? trail.state? true) where
  log := rfl
  state := rfl
  later := by
    intro state event
    rw [append_of_free (withState_ne_blocked free state), log?_withState, state?_withState free]
    rfl

/-- **A failed append writes nothing.** Whatever prevents it, log and last hash are as they were, and
what is published fails as an audit failure. A later event that can be written, with a last hash that
can be read, is added to the log as it was, linked to that hash. -/
theorem failed_append_writes_nothing (free : trail ≠ .blocked)
    (h : Prevents trail.state? event f) :
    ∃ after, trail.append event = (.error f, after) ∧ trail.LeavesNoTrace after ∧
      (∀ source type s clientAddress extensions now,
        event = Audit.event source type s clientAddress extensions now →
        trail.publish source type s clientAddress extensions now =
          (.error (.detailed .auditFailure "Failed to publish audit event"
            (source.eventName type ++ ": " ++ f.label)), after)) ∧
      ∀ state later previous, lastHash state = .ok previous → IsLoggable later →
        ∃ bs hash, line previous later = .ok (bs, hash) ∧
          (after.withState state).append later = (.ok hash,
            .directory (some (trail.log?.getD [] ++ bs)) (some (Bytes.ofAscii hash ++ [0x0A]))
              true) := by
  have happend := h.append free
  refine ⟨_, happend, leavesNoTrace free, ?_, ?_⟩
  · rintro source type s clientAddress extensions now rfl
    unfold publish
    rw [happend]
  · intro state later previous hlast hloggable
    obtain ⟨bs, hash, hline⟩ := line_of_loggable (pairs_of_lastHash hlast) hloggable
    refine ⟨bs, hash, hline, ?_⟩
    rw [(leavesNoTrace free).later, append_of_line (withState_ne_blocked free state)
      (by rwa [state?_withState free]) hline, log?_withState]

/-- An event with a lone surrogate two levels down. -/
def loneEvent : List (Text × Json) :=
  [("user", .obj [("ids", .arr [.str "u", .str [CodePoint.ofNat 0xD800]])])]

theorem lone_surrogate_writes_nothing :
    Prevents none loneEvent .eventNotText ∧ ∃ after,
      missing.append loneEvent = (.error .eventNotText, after) ∧ missing.LeavesNoTrace after ∧
      ∃ bs hash, line genesis [] = .ok (bs, hash) ∧ (after.withState none).append [] =
        (.ok hash, .directory (some bs) (some (Bytes.ofAscii hash ++ [0x0A])) true) := by
  have hmention : Json.Mentions [CodePoint.ofNat 0xD800] (.obj (unlinked loneEvent)) := by
    refine .value (m := ("user", .obj [("ids", .arr [.str "u", .str [CodePoint.ofNat 0xD800]])]))
      (by decide) (.value List.mem_cons_self ?_)
    exact .item (List.mem_cons_of_mem _ List.mem_cons_self) .str
  have hprevents : Prevents none loneEvent .eventNotText := by
    refine .eventNotText rfl hmention fun hscalar => ?_
    cases hscalar _ List.mem_cons_self
  obtain ⟨after, happend, htrace, -, hlater⟩ :=
    failed_append_writes_nothing missing_ne_blocked hprevents
  exact ⟨hprevents, after, happend, htrace, hlater none [] genesis rfl isLoggable_nil⟩

end Trail

end Audit

end Issuance
