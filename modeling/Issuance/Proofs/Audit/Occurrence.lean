import Issuance.Proofs.Audit.Log
import Issuance.Proofs.Session.Store

/-!
# Issuance.Proofs.Audit.Occurrence

**What the log tells of sessions.** A line of the log is read back as an event, whose name says what
happened and whose user names the session it happened to: its `Occurrence`. `Trail.Told` says of a
trail that its lines tell given occurrences, one after the other, and that it takes more. What is
published is told at the end (`Told.publish_ok`), and what fails to be published leaves no trace
(`Told.publish_error`).

Whether an event can be published depends on the texts in it. All later events of a session have
the texts of its first one, apart from the address of the client. So once one event of a session is
recorded, the session is `Recordable`, and whatever happens to it can be recorded from then on.
-/

namespace Issuance

namespace Audit

namespace Source

/-- The type whose events have a name. -/
def typeOf? (source : Source) (name : Text) : Option EventType :=
  [EventType.start, .authorizationSent, .accessTokenIssued, .codeReplayed].find? fun type =>
    source.eventName type = name

/-- No two types have one name, whatever the names begin with. -/
theorem typeOf?_eventName (source : Source) (type : EventType) :
    source.typeOf? (source.eventName type) = some type := by
  have hname : ∀ a b : EventType, (source.eventName a = source.eventName b) = (a = b) := by
    intro a b
    unfold eventName
    rw [List.append_cancel_left_eq]
    cases a <;> cases b <;> decide
  unfold typeOf?
  simp only [hname]
  cases type <;> rfl

end Source

/-- What happened, and to which session. -/
structure Occurrence where
  type : EventType
  sessionId : Text
  deriving DecidableEq

namespace Occurrence

/-- What an event tells. -/
def ofEvent? (source : Source) (event : Json) : Option Occurrence :=
  match (event.member "event_name").text?.bind source.typeOf?,
    ((event.member "user").member "session_id").text? with
  | some type, some id => some ⟨type, id⟩
  | _, _ => none

/-- What a line of a log tells. -/
def ofLine? (source : Source) (line : Text) : Option Occurrence :=
  (Json.read? line).bind (ofEvent? source)

variable {source : Source} {event : List (Text × Json)}

theorem ofEvent?_sorted {v : Json} (h : v.HasDistinctKeys) :
    ofEvent? source v.sorted = ofEvent? source v := by
  unfold ofEvent?
  rw [Json.member_sorted h, Json.member_sorted h, Json.member_sorted (h.member "user"),
    Json.text?_sorted, Json.text?_sorted]

theorem member_linked {key : Text} (hprevious : previousField ≠ key) (hhash : hashField ≠ key)
    (previous hash : Text) (event : List (Text × Json)) :
    (Json.obj (linked previous hash event)).member key = (Json.obj event).member key := by
  show (Entries.get? key _).getD _ = (Entries.get? key event).getD _
  unfold linked unlinked
  rw [Entries.get?_set, if_neg hhash, Entries.get?_set, if_neg hprevious, Entries.get?_erase,
    if_neg hhash, Entries.get?_erase, if_neg hprevious]

/-- The line of an event tells what the event tells. -/
theorem ofLine?_lineText (h : (Json.obj event).HasDistinctKeys) (previous hash : Text) :
    ofLine? source (lineText previous hash event) = ofEvent? source (.obj event) := by
  have hlinked := hasDistinctKeys_linked h previous hash
  unfold ofLine? lineText
  rw [Json.read?_canonical hlinked, Option.bind_some, ofEvent?_sorted hlinked]
  unfold ofEvent?
  rw [member_linked (by decide) (by decide), member_linked (by decide) (by decide)]

/-- An event of a session tells its type and the session. -/
theorem ofEvent?_event (source : Source) (type : EventType) (s : Session)
    (clientAddress : Option Text) (extensions : List (Text × Json)) (now : Int) :
    ofEvent? source (.obj (Audit.event source type s clientAddress extensions now)) =
      some ⟨type, s.id⟩ := by
  have hname : (Json.obj (Audit.event source type s clientAddress extensions now)).member
      "event_name" = .str (source.eventName type) := rfl
  have huser : (Json.obj (Audit.event source type s clientAddress extensions now)).member "user" =
      user s clientAddress := rfl
  have hid : (user s clientAddress).member "session_id" = .str s.id := by
    unfold user
    by_cases hsubject : s.subject = .null
    · rw [hsubject]
      rfl
    · simp only [ne_eq, List.filter_cons, hsubject, not_false_eq_true, decide_true, if_true]
      rfl
  unfold ofEvent?
  rw [hname, huser, hid]
  simp only [Json.text?, Option.bind_some, Source.typeOf?_eventName]

/-- The lines of events tell what the events tell. -/
theorem map_linesOf {previous : Text} {done : Taken} (h : Hashed previous done) :
    (linesOf previous done).map (ofLine? source) =
      done.map fun e => ofEvent? source (.obj e.1) := by
  induction h with
  | nil => rfl
  | cons hevent _ _ ih =>
    rw [linesOf, List.map_cons, List.map_cons, ofLine?_lineText hevent, ih]

end Occurrence

/-! ### Events with distinct keys -/

theorem hasDistinctKeys_user {s : Session} (clientAddress : Option Text)
    (h : ∀ v ∈ [s.subject, s.persistentSessionId, s.clientSessionId], v.HasDistinctKeys) :
    (user s clientAddress).HasDistinctKeys := by
  have hnames : (["user_id", "session_id", "persistent_session_id", "govuk_signin_journey_id",
      "ip_address"] : List Text).Nodup := by decide
  refine .obj (hnames.sublist (List.Sublist.map Prod.fst List.filter_sublist)) fun m hm => ?_
  have hm := (List.mem_filter.1 hm).1
  simp only [List.mem_cons, List.not_mem_nil, or_false] at hm
  rcases hm with rfl | rfl | rfl | rfl | rfl
  · exact h _ (by simp)
  · exact .str s.id
  · exact h _ (by simp)
  · exact h _ (by simp)
  · show (Json.ofText? _).HasDistinctKeys
    cases address s clientAddress with
    | none => exact .null
    | some a => exact .str a

theorem hasDistinctKeys_event {s : Session}
    (h : ∀ v ∈ [s.subject, s.persistentSessionId, s.clientSessionId], v.HasDistinctKeys)
    {extensions : List (Text × Json)} (hextensions : (Json.obj extensions).HasDistinctKeys)
    (source : Source) (type : EventType) (clientAddress : Option Text) (now : Int) :
    (Json.obj (event source type s clientAddress extensions now)).HasDistinctKeys := by
  have hmembers : ∀ m ∈ event source type s clientAddress extensions now,
      m.2.HasDistinctKeys := by
    intro m hm
    rcases List.mem_append.1 hm with hm | hm
    · simp only [List.mem_cons, List.not_mem_nil, or_false] at hm
      rcases hm with rfl | rfl | rfl | rfl
      · exact .str _
      · exact .str _
      · exact .int now
      · exact hasDistinctKeys_user clientAddress h
    · split at hm
      · cases hm
      · rw [List.mem_singleton.1 hm]
        exact hextensions
  refine .obj ?_ hmembers
  unfold event
  split
  · show (["event_name", "component_id", "timestamp", "user"] : List Text).Nodup
    decide
  · show (["event_name", "component_id", "timestamp", "user", "extensions"] : List Text).Nodup
    decide

/-! ### What a trail tells -/

namespace Trail

/-- What the lines of the log tell, in order; nothing for a line that tells of no session. -/
def occurrences (source : Source) (trail : Trail) : List (Option Occurrence) :=
  (entries (trail.log?.getD [])).map (Occurrence.ofLine? source)

/-- A trail to which events can be added, and whose lines tell given occurrences. -/
structure Told (source : Source) (trail : Trail) (told : List Occurrence) : Prop where
  free : trail ≠ .blocked
  logs : ∃ done, trail.Logs done ∧
    (done.map fun e => Occurrence.ofEvent? source (.obj e.1)) = told.map some

variable {source : Source} {trail trail' : Trail} {told : List Occurrence}

theorem told_empty (free : trail ≠ .blocked) (hlog : trail.log? = none)
    (hstate : trail.state? = none) : trail.Told source [] :=
  ⟨free, [], logs_empty hlog hstate, rfl⟩

/-- All lines of the log tell of a session, and these are the occurrences that they tell. -/
theorem Told.occurrences (h : trail.Told source told) :
    trail.occurrences source = told.map some := by
  obtain ⟨-, done, hlogs, hdone⟩ := h
  unfold Trail.occurrences
  rw [hlogs.entries_eq, Occurrence.map_linesOf hlogs.hashed, hdone]

theorem Told.appendable (h : trail.Told source told) : trail.Appendable := by
  obtain ⟨free, done, hlogs, -⟩ := h
  exact ⟨free, _, hlogs.last, hlogs.hashed.isDigest isDigest_genesis⟩

/-- Adding an event blocks no trail. -/
theorem append_ne_blocked (h : trail ≠ .blocked) {event : List (Text × Json)}
    {outcome : Except Fault Text} (happend : trail.append event = (outcome, trail')) :
    trail' ≠ .blocked := by
  have hadd : ∀ log state, append.add event log state = (outcome, trail') → trail' ≠ .blocked := by
    intro log state hadd
    unfold append.add at hadd
    split at hadd <;> cases hadd <;> exact nofun
  cases trail with
  | blocked => exact absurd rfl h
  | missing => exact hadd none none happend
  | directory log state locked => exact hadd log state happend

variable {type : EventType} {s : Session} {clientAddress : Option Text}
  {extensions : List (Text × Json)} {now : Int}

/-- What is published is told at the end. -/
theorem Told.publish_ok (h : trail.Told source told)
    (hevent : (Json.obj (event source type s clientAddress extensions now)).HasDistinctKeys)
    (hpublish : trail.publish source type s clientAddress extensions now = (.ok (), trail')) :
    trail'.Told source (told ++ [⟨type, s.id⟩]) := by
  obtain ⟨free, done, hlogs, hdone⟩ := h
  unfold publish at hpublish
  split at hpublish
  · rename_i hash trail'' happend
    cases hpublish
    refine ⟨append_ne_blocked free happend, _, hlogs.step hevent happend, ?_⟩
    rw [List.map_append, List.map_append, hdone]
    exact congrArg _ (congrArg (fun o => [o]) (Occurrence.ofEvent?_event ..))
  · cases hpublish

/-- What fails to be published leaves no trace. -/
theorem Told.publish_error (h : trail.Told source told) {f : Issuance.Fault}
    (hpublish : trail.publish source type s clientAddress extensions now = (.error f, trail')) :
    trail'.Told source told := by
  obtain ⟨free, done, hlogs, hdone⟩ := h
  unfold publish at hpublish
  split at hpublish
  · cases hpublish
  · rename_i fault trail'' happend
    cases hpublish
    obtain ⟨hlog, hstate⟩ := append_eq_error happend
    exact ⟨append_ne_blocked free happend, done,
      ⟨hlogs.hashed, hlog ▸ hlogs.log, hstate ▸ hlogs.last, hlog ▸ hstate ▸ hlogs.files⟩, hdone⟩

end Trail

/-! ### Sessions whose events are recorded -/

/-- A session of which everything can be recorded that happens to it: the texts in its events have
no lone surrogates, and no object in them has two members with one key. -/
structure Recordable (source : Source) (s : Session) : Prop where
  name : ∀ type, (source.eventName type).IsScalar
  component : source.componentId.IsScalar
  scalar : ∀ v ∈ [s.subject, .str s.id, s.persistentSessionId, s.clientSessionId],
    (Json.canonical v).IsScalar
  distinct : ∀ v ∈ [s.subject, s.persistentSessionId, s.clientSessionId], v.HasDistinctKeys
  address : ∀ a, s.clientAddress = some a → a.IsScalar

theorem isScalar_eventName {source : Source} {type : EventType}
    (h : (source.eventName type).IsScalar) (other : EventType) :
    (source.eventName other).IsScalar := by
  have hnames : ∀ type : EventType, ("_" ++ type.name : Text).any CodePoint.isSurrogate = false := by
    intro type
    cases type <;> decide
  intro c hc
  unfold Source.eventName at h hc
  rw [List.append_assoc] at hc
  rcases List.mem_append.1 hc with hc | hc
  · exact h c (List.mem_append_left _ (List.mem_append_left _ hc))
  · exact Text.isScalar_of_any (hnames other) c hc

theorem isScalar_address {s : Session} {clientAddress : Option Text}
    (hs : ∀ a, s.clientAddress = some a → a.IsScalar)
    (ha : ∀ a, clientAddress = some a → a.IsScalar) :
    (Json.canonical (Json.ofText? (address s clientAddress))).IsScalar := by
  cases h : address s clientAddress with
  | none => exact Text.isScalar_of_any (by decide)
  | some a =>
    refine Json.isScalar_writeString ?_ _
    unfold address at h
    split at h
    · rename_i b hb
      cases h
      exact ha a (Session.filled?_eq_some.1 hb).1
    · exact hs a h

/-- **Once one event of a session is recorded, all others can be.** -/
theorem recordable_of_publish {trail trail' : Trail} {source : Source} {type : EventType}
    {s : Session} {clientAddress : Option Text} {extensions : List (Text × Json)} {now : Int}
    (hpublish : trail.publish source type s clientAddress extensions now = (.ok (), trail'))
    (distinct : ∀ v ∈ [s.subject, s.persistentSessionId, s.clientSessionId], v.HasDistinctKeys)
    (address : ∀ a, s.clientAddress = some a → a.IsScalar) : Recordable source s := by
  obtain ⟨hash, -, previous, bs, -, hline, -⟩ := Trail.publish_eq_ok hpublish
  obtain ⟨-, body, hbody, -⟩ := Trail.line_eq_ok hline
  have hwritten := Utf8.isScalar_of_encode? hbody
  -- a member of the event is a member of the line, unless it is a chain field
  have hmember : ∀ key v, (key, v) ∈ event source type s clientAddress extensions now →
      key ≠ previousField → key ≠ hashField → (Json.canonical v).IsScalar := by
    intro key v hm hprevious hhash
    have hlinked : (key, v) ∈
        linked previous hash (event source type s clientAddress extensions now) := by
      rw [linked_eq]
      exact List.mem_append_left _ (List.mem_filter.2
        ⟨List.mem_filter.2 ⟨hm, by simpa using hprevious⟩, by simpa using hhash⟩)
    exact Json.isScalar_of_write_obj hwritten hlinked
  have hname := hmember "event_name" (.str (source.eventName type))
    (List.mem_append_left _ (by simp)) (by decide) (by decide)
  have hcomponent := hmember "component_id" (.str source.componentId)
    (List.mem_append_left _ (by simp)) (by decide) (by decide)
  have huser := hmember "user" (user s clientAddress)
    (List.mem_append_left _ (by simp)) (by decide) (by decide)
  -- what the user does not have is null, which is written as it is
  have hfield : ∀ key v, (key, v) ∈ ([("user_id", s.subject), ("session_id", .str s.id),
      ("persistent_session_id", s.persistentSessionId),
      ("govuk_signin_journey_id", s.clientSessionId),
      ("ip_address", .ofText? (Audit.address s clientAddress))] : List (Text × Json)) →
      (Json.canonical v).IsScalar := by
    intro key v hv
    by_cases hnull : v = .null
    · rw [hnull]
      exact Text.isScalar_of_any (by decide)
    · exact Json.isScalar_of_write_obj huser (List.mem_filter.2 ⟨hv, by simpa using hnull⟩)
  refine ⟨isScalar_eventName (Json.isScalar_of_writeString hname),
    Json.isScalar_of_writeString hcomponent, fun v hv => ?_, distinct, address⟩
  simp only [List.mem_cons, List.not_mem_nil, or_false] at hv
  rcases hv with rfl | rfl | rfl | rfl
  · exact hfield "user_id" _ (by simp)
  · exact hfield "session_id" _ (by simp)
  · exact hfield "persistent_session_id" _ (by simp)
  · exact hfield "govuk_signin_journey_id" _ (by simp)

namespace Recordable

variable {source : Source} {s : Session} {clientAddress : Option Text}

theorem hasDistinctKeys (h : Recordable source s) (type : EventType)
    (clientAddress : Option Text) (now : Int) :
    (Json.obj (event source type s clientAddress [] now)).HasDistinctKeys :=
  hasDistinctKeys_event h.distinct Json.hasDistinctKeys_nil _ _ _ _

theorem isWritable (h : Recordable source s)
    (ha : ∀ a, clientAddress = some a → a.IsScalar) (type : EventType) (now : Int) :
    IsWritable (event source type s clientAddress [] now) := by
  refine isWritable_event (h.name type) h.component (isScalar_user fun v hv => ?_) now
  simp only [List.mem_cons, List.not_mem_nil, or_false] at hv
  rcases hv with rfl | rfl | rfl | rfl | rfl
  · exact h.scalar _ (by simp)
  · exact h.scalar _ (by simp)
  · exact h.scalar _ (by simp)
  · exact h.scalar _ (by simp)
  · exact isScalar_address h.address ha

/-- What happens to a recordable session is recorded, and told at the end. -/
theorem publish (h : Recordable source s) {trail : Trail} {told : List Occurrence}
    (htold : trail.Told source told) (ha : ∀ a, clientAddress = some a → a.IsScalar)
    (type : EventType) (now : Int) :
    ∃ trail', trail.publish source type s clientAddress [] now = (.ok (), trail') ∧
      trail'.Told source (told ++ [⟨type, s.id⟩]) := by
  obtain ⟨trail', hpublish, -⟩ :=
    Trail.publish_of_appendable htold.appendable (h.isWritable ha type now)
  exact ⟨trail', hpublish, htold.publish_ok (h.hasDistinctKeys type clientAddress now) hpublish⟩

end Recordable

end Audit

end Issuance
