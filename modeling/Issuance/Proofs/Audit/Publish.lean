import Issuance.Proofs.Audit.Loggable

/-!
# Issuance.Proofs.Audit.Publish

**When an event is recorded.** An append comes to what the last hash and the event's line say, where
nothing blocks the place of the trail. A trail is `Appendable` where its last hash can be read. There
every event without lone surrogates is recorded, and the trail is appendable again, because the hash
that is left behind is 64 digits on a line of their own.
-/

namespace Issuance

namespace Audit

/-! ### Recording an event -/

/-- An event that has a canonical form, whatever it is linked with. -/
def IsWritable (event : List (Text × Json)) : Prop :=
  ∀ m ∈ event, m.1.IsScalar ∧ (Json.canonical m.2).IsScalar

/-- Writable events are loggable, since the chain fields only replace what they have. -/
theorem IsWritable.isLoggable {event : List (Text × Json)} (h : IsWritable event) :
    IsLoggable event := by
  refine Json.isScalar_canonical_iff.1 (Json.isScalar_write_obj fun m hm => ?_)
  exact h m (mem_of_mem_unlinked hm)

/-- What an event tells of a session, by the names of its fields. -/
theorem isScalar_user {s : Session} {clientAddress : Option Text}
    (h : ∀ v ∈ [s.subject, .str s.id, s.persistentSessionId, s.clientSessionId,
      Json.ofText? (address s clientAddress)], (Json.canonical v).IsScalar) :
    (Json.canonical (user s clientAddress)).IsScalar := by
  have hkeys : ∀ key ∈ (["user_id", "session_id", "persistent_session_id",
      "govuk_signin_journey_id", "ip_address"] : List Text),
      key.any CodePoint.isSurrogate = false := by decide
  refine Json.isScalar_write_obj fun m hm => ?_
  have hm := (List.mem_filter.1 hm).1
  simp only [List.mem_cons, List.not_mem_nil, or_false] at hm
  rcases hm with rfl | rfl | rfl | rfl | rfl <;>
    exact ⟨Text.isScalar_of_any (hkeys _ (by simp)), h _ (by simp)⟩

/-- An event without extensions is writable where its name, its source and its user are. -/
theorem isWritable_event {source : Source} {type : EventType} {s : Session}
    {clientAddress : Option Text} (hname : (source.eventName type).IsScalar)
    (hcomponent : source.componentId.IsScalar)
    (huser : (Json.canonical (user s clientAddress)).IsScalar) (now : Int) :
    IsWritable (event source type s clientAddress [] now) := by
  have hkeys : ∀ key ∈ (["event_name", "component_id", "timestamp", "user"] : List Text),
      key.any CodePoint.isSurrogate = false := by decide
  intro m hm
  simp only [event, List.isEmpty_nil, if_true, List.append_nil, List.mem_cons, List.not_mem_nil,
    or_false] at hm
  rcases hm with rfl | rfl | rfl | rfl
  · exact ⟨Text.isScalar_of_any (hkeys _ (by simp)), Json.isScalar_writeString hname _⟩
  · exact ⟨Text.isScalar_of_any (hkeys _ (by simp)), Json.isScalar_writeString hcomponent _⟩
  · exact ⟨Text.isScalar_of_any (hkeys _ (by simp)), Text.isScalar_ofInt now⟩
  · exact ⟨Text.isScalar_of_any (hkeys _ (by simp)), huser⟩

namespace Trail

variable {trail trail' : Trail} {event : List (Text × Json)} {previous hash : Text}

/-! ### Adding to a trail -/

theorem directory_ne_blocked (log state : Option Bytes) (locked : Bool) :
    directory log state locked ≠ blocked := nofun

theorem missing_ne_blocked : missing ≠ blocked := nofun

/-- A trail that is missing and one that is there are added to alike. -/
theorem append_of_free (free : trail ≠ .blocked) (event : List (Text × Json)) :
    trail.append event = append.add event trail.log? trail.state? := by
  cases trail with
  | blocked => exact absurd rfl free
  | missing => rfl
  | directory log state locked => rfl

theorem append_of_line (free : trail ≠ .blocked) {bs : Bytes}
    (hlast : lastHash trail.state? = .ok previous)
    (hline : line previous event = .ok (bs, hash)) :
    trail.append event = (.ok hash, .directory (some (trail.log?.getD [] ++ bs))
      (some (Bytes.ofAscii hash ++ [0x0A])) true) := by
  rw [append_of_free free]
  unfold append.add appendTo
  rw [hlast]
  dsimp only
  rw [hline]

theorem append_of_no_line (free : trail ≠ .blocked) {f : Fault}
    (hlast : lastHash trail.state? = .ok previous) (hline : line previous event = .error f) :
    trail.append event = (.error f, .directory trail.log? trail.state? true) := by
  rw [append_of_free free]
  unfold append.add appendTo
  rw [hlast]
  dsimp only
  rw [hline]

theorem append_of_no_head (free : trail ≠ .blocked) {f : Fault}
    (h : lastHash trail.state? = .error f) (event : List (Text × Json)) :
    trail.append event = (.error f, .directory trail.log? trail.state? true) := by
  rw [append_of_free free]
  unfold append.add appendTo
  rw [h]

/-- A trail has taken an event: its line, linked to the hash that was the last, is at the end of
the log, and its hash is the last one now. -/
def Records (trail trail' : Trail) (event : List (Text × Json)) (hash : Text) : Prop :=
  trail ≠ .blocked ∧ ∃ previous bs, lastHash trail.state? = .ok previous ∧
    line previous event = .ok (bs, hash) ∧
    trail' = .directory (some (trail.log?.getD [] ++ bs)) (some (Bytes.ofAscii hash ++ [0x0A])) true

/-- What an append comes to: the event is taken, or the files stay as they were. -/
theorem append_cases (free : trail ≠ .blocked) (event : List (Text × Json)) :
    (∃ hash trail', trail.append event = (.ok hash, trail') ∧ trail.Records trail' event hash) ∨
      ∃ f, trail.append event = (.error f, .directory trail.log? trail.state? true) := by
  cases hlast : lastHash trail.state? with
  | error f => exact .inr ⟨f, append_of_no_head free hlast event⟩
  | ok previous =>
    cases hline : line previous event with
    | error f => exact .inr ⟨f, append_of_no_line free hlast hline⟩
    | ok written =>
      obtain ⟨bs, hash⟩ := written
      exact .inl ⟨hash, _, append_of_line free hlast hline, free, previous, bs, hlast, hline, rfl⟩

/-- Invert an append that went well. -/
theorem append_eq_ok (h : trail.append event = (.ok hash, trail')) :
    trail.Records trail' event hash := by
  have free : trail ≠ .blocked := by
    rintro rfl
    cases h
  rcases append_cases free event with ⟨_, _, happend, hrecords⟩ | ⟨f, happend⟩
  · rw [happend] at h
    cases h
    exact hrecords
  · rw [happend] at h
    cases h

/-- An append that fails leaves both files as they were. -/
theorem append_eq_error {f : Fault} (h : trail.append event = (.error f, trail')) :
    trail'.log? = trail.log? ∧ trail'.state? = trail.state? := by
  by_cases hblocked : trail = .blocked
  · subst hblocked
    cases h
    exact ⟨rfl, rfl⟩
  · rcases append_cases hblocked event with ⟨_, _, happend, -⟩ | ⟨f', happend⟩
    · rw [happend] at h
      cases h
    · rw [happend] at h
      cases h
      exact ⟨rfl, rfl⟩

/-! ### Recording what happened -/

/-- A trail to which events can be added: nothing else is at its place, and its last hash can be
read. -/
def Appendable (trail : Trail) : Prop :=
  trail ≠ .blocked ∧ ∃ previous, lastHash trail.state? = .ok previous ∧ IsDigest previous

theorem appendable_missing : Appendable .missing := ⟨nofun, genesis, rfl, isDigest_genesis⟩

theorem append_of_appendable (h : trail.Appendable) (hw : IsWritable event) :
    ∃ hash trail', trail.append event = (.ok hash, trail') ∧ trail'.Appendable := by
  obtain ⟨free, previous, hlast, hdigest⟩ := h
  obtain ⟨bs, hash, hline⟩ := line_of_loggable (Hex.decode?_isSome_iff.1 hdigest.decode)
    hw.isLoggable
  have hhash := isDigest_of_chainHash (line_eq_ok hline).1
  exact ⟨hash, _, append_of_line free hlast hline, directory_ne_blocked _ _ _, hash,
    lastHash_line hhash, hhash⟩

/-- What happened to a session is recorded as its event. -/
theorem publish_eq_ok {source : Source} {type : EventType} {s : Session}
    {clientAddress : Option Text} {extensions : List (Text × Json)} {now : Int}
    (h : trail.publish source type s clientAddress extensions now = (.ok (), trail')) :
    ∃ hash, trail.Records trail' (Audit.event source type s clientAddress extensions now) hash := by
  unfold publish at h
  split at h
  · rename_i hash _ happend
    cases h
    exact ⟨hash, append_eq_ok happend⟩
  · cases h

/-- **What can be recorded is recorded**, and leaves a trail that takes the next event. -/
theorem publish_of_appendable (h : trail.Appendable) {source : Source}
    {type : EventType} {s : Session} {clientAddress : Option Text}
    {extensions : List (Text × Json)} {now : Int}
    (hw : IsWritable (Audit.event source type s clientAddress extensions now)) :
    ∃ trail', trail.publish source type s clientAddress extensions now = (.ok (), trail') ∧
      trail'.Appendable := by
  obtain ⟨hash, trail', happend, happendable⟩ := append_of_appendable h hw
  refine ⟨trail', ?_, happendable⟩
  unfold publish
  rw [happend]

/-- Nothing is recorded in a trail whose last hash cannot be read. -/
theorem publish_of_unreadable {state : Option Bytes} {f : Fault} (h : lastHash state = .error f)
    (log : Option Bytes) (locked : Bool) (source : Source) (type : EventType) (s : Session)
    (clientAddress : Option Text) (extensions : List (Text × Json)) (now : Int) :
    ∃ fault, (publish (.directory log state locked) source type s clientAddress extensions
      now).1 = .error fault := by
  unfold publish
  rw [append_of_no_head (directory_ne_blocked log state locked) h]
  exact ⟨_, rfl⟩

end Trail

end Audit

end Issuance
