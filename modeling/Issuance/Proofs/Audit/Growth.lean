import Issuance.Proofs.Audit.Head
import Issuance.Proofs.Audit.Log

/-!
# Issuance.Proofs.Audit.Growth

**What an append makes of a good log.** The verifier takes a log from any source, with blank lines,
blanks around lines, whichever line breaks and any spelling of JSON. The writer looks at the last hash
only, and puts its bytes behind whatever the log holds. If nothing but blanks stands behind the log's
last line break, these bytes are a line of their own, and the log is good again, with one line more
(`Good.append`). Otherwise they continue the last line, so that no line is added
(`length_entriesOf_glued`). Hence the log stays good exactly if its last line was ended
(`append_keeps_good_iff`).
-/

namespace Issuance

namespace Audit

variable {log state : Bytes} {lines : List Text} {previous hash : Text}
  {event : List (Text × Json)}

/-- The writer reads the last hash of a good log. -/
theorem Good.lastHash (h : Good log state lines hash) : Trail.lastHash (some state) = .ok hash := by
  rw [Trail.lastHash_of_text h.state]
  cases lines with
  | nil =>
    cases h.spans
    rfl
  | cons line lines =>
    rw [newest?_cons, Option.getD_some, if_neg h.isDigest.ne_nil, if_pos h.isDigest.isHash,
      h.isDigest.map_toLowerAscii]

/-! ### A line behind a log -/

/-- Nothing but blanks stands behind the last line break of a log, if there is one at all. -/
def EndsBlank (log : Bytes) : Prop :=
  ∃ t before last, Utf8.decode? log = some t ∧ Text.lines t = before ++ [last] ∧ last.trim = []

/-- The line that is written behind a text continues the last one. -/
theorem entriesOf_glued {t last : Text} {before : List Text}
    (ht : Text.lines t = before ++ [last]) (previous hash : Text) (event : List (Text × Json)) :
    entriesOf (Text.lines (t ++ Text.ended [lineText previous hash event])) =
      entriesOf before ++ [(last ++ lineText previous hash event).trim] := by
  obtain ⟨htrim, hne⟩ := trim_lineText previous hash event
  have hfilled : (last ++ lineText previous hash event).trim ≠ [] := by
    intro hnil
    have hblank := Text.trim_eq_nil_iff.1 hnil
    have hline := Text.trim_eq_nil_iff.2 fun c hc => hblank c (List.mem_append_right last hc)
    rw [htrim] at hline
    exact hne hline
  rw [Text.lines_append_ended ht hne (no_control_lineText _ _ _), entriesOf_append,
    entriesOf_cons_filled hfilled]
  rfl

/-- Behind blanks, it is a line of its own. -/
theorem entriesOf_append_line {t last : Text} {before : List Text}
    (ht : Text.lines t = before ++ [last]) (hlast : last.trim = []) (previous hash : Text)
    (event : List (Text × Json)) :
    entriesOf (Text.lines (t ++ Text.ended [lineText previous hash event])) =
      entriesOf (Text.lines t) ++ [lineText previous hash event] := by
  rw [entriesOf_glued ht, ht, entriesOf_append, entriesOf_cons_blank hlast,
    Text.trim_append (Text.trim_eq_nil_iff.1 hlast), (trim_lineText previous hash event).1]
  exact congrArg (· ++ _) (List.append_nil _).symm

/-- Behind anything else, it makes no line more. -/
theorem length_entriesOf_glued {t last : Text} {before : List Text}
    (ht : Text.lines t = before ++ [last]) (hlast : last.trim ≠ []) (previous hash : Text)
    (event : List (Text × Json)) :
    (entriesOf (Text.lines (t ++ Text.ended [lineText previous hash event]))).length =
      (entriesOf (Text.lines t)).length := by
  rw [entriesOf_glued ht, ht, entriesOf_append, entriesOf_cons_filled hlast, List.length_append,
    List.length_append]
  rfl

/-- The bytes that are written for an event are its line and a line break. -/
theorem decode?_append_line {t : Text} {bs : Bytes} (ht : Utf8.decode? log = some t)
    (hline : Trail.line previous event = .ok (bs, hash)) :
    Utf8.decode? (log ++ bs) = some (t ++ Text.ended [lineText previous hash event]) := by
  obtain ⟨-, body, hbody, rfl⟩ := Trail.line_eq_ok hline
  have hbreak : Utf8.encode? [CodePoint.ofNat 0x0A] = some [0x0A] := by decide
  have hended := Utf8.decode?_encode? (Utf8.encode?_append hbody hbreak)
  exact Utf8.decode?_append ht (by rwa [Text.ended, List.flatMap_singleton])

/-- **A good log stays good** with an event on a line of its own. -/
theorem Good.append (h : Good log state lines previous) (ends : EndsBlank log)
    (hevent : (Json.obj event).HasDistinctKeys) {bs : Bytes}
    (hline : Trail.line previous event = .ok (bs, hash)) :
    Good (log ++ bs) (Bytes.ofAscii hash ++ [0x0A]) (lines ++ [lineText previous hash event])
      hash := by
  obtain ⟨⟨t, htext, rfl⟩, hspans, -⟩ := h
  obtain ⟨t', before, last, htext', hbefore, hblank⟩ := ends
  obtain rfl : t = t' := Option.some.inj (htext.symm.trans htext')
  obtain ⟨hchain, -⟩ := Trail.line_eq_ok hline
  have hdigest := isDigest_of_chainHash hchain
  refine ⟨⟨_, decode?_append_line htext hline, entriesOf_append_line hbefore hblank _ _ _⟩, ?_, ?_⟩
  · exact hspans.concat (links_lineText hevent (hspans.isDigest isDigest_genesis) hchain)
  · obtain ⟨u, hdecode, htrim⟩ := decode?_line hdigest
    rw [Verdict.stateText?, hdecode, Option.map_some, htrim, newest?_concat, Option.getD_some]

/-- **A log whose last line has no end gets no line more.** -/
theorem Good.not_verify_longer (h : Good log state lines previous) (unended : ¬ EndsBlank log)
    {bs : Bytes} (hline : Trail.line previous event = .ok (bs, hash)) {state' : Bytes}
    {logPath statePath : Text} {last? : Option Text} :
    Verdict.verify logPath (.file (log ++ bs)) (some (statePath, .file state')) ≠
      .ok ⟨true, lines.length + 1, last?, "OK"⟩ := by
  intro hverify
  obtain ⟨lines', hash', h', hv⟩ := Verdict.verify_good_iff.1 ⟨hverify, rfl⟩
  have hmore : lines.length + 1 = lines'.length := congrArg Verdict.lines hv
  obtain ⟨⟨t, htext, rfl⟩, -, -⟩ := h
  obtain ⟨⟨t', htext', rfl⟩, -, -⟩ := h'
  rw [decode?_append_line htext hline] at htext'
  cases htext'
  obtain ⟨before, last, hbefore⟩ : ∃ before last, Text.lines t = before ++ [last] :=
    (List.eq_nil_or_concat' _).resolve_left (Text.pieces_ne_nil _ _)
  have hlast : last.trim ≠ [] := fun hblank => unended ⟨t, before, last, htext, hbefore, hblank⟩
  rw [length_entriesOf_glued hbefore hlast] at hmore
  omega

namespace Trail

variable {logPath statePath : Text} {locked : Bool} {trail' : Trail} {v : Verdict}

/-- **Writer and verifier agree on a good log exactly if its last line was ended**: the log that an
append leaves verifies against the hash that it leaves, with one line more, whose hash is the one that
was given back. -/
theorem append_keeps_good_iff
    (hverify : Verdict.verify logPath (.file log) (some (statePath, .file state)) = .ok v)
    (hok : v.ok = true) (hevent : (Json.obj event).HasDistinctKeys)
    (happend : (directory (some log) (some state) locked).append event = (.ok hash, trail')) :
    (∃ log' state', trail'.log? = some log' ∧ trail'.state? = some state' ∧
      Verdict.verify logPath (.file log') (some (statePath, .file state')) =
        .ok ⟨true, v.lines + 1, some hash, "OK"⟩) ↔ EndsBlank log := by
  obtain ⟨lines, previous, hgood, rfl⟩ := Verdict.verify_good_iff.1 ⟨hverify, hok⟩
  obtain ⟨-, previous', bs, hlast, hline, rfl⟩ := append_eq_ok happend
  obtain rfl : previous = previous' := Except.ok.inj (hgood.lastHash.symm.trans hlast)
  constructor
  · rintro ⟨log', state', hlog, hstate, hverify'⟩
    cases hlog
    by_contra unended
    exact hgood.not_verify_longer unended hline hverify'
  · intro ends
    have hverify' := (hgood.append ends hevent hline).verify logPath statePath
    rw [newest?_concat, List.length_append] at hverify'
    exact ⟨_, _, rfl, rfl, hverify'⟩

/-! ### With and without a line break -/

def startEvent : List (Text × Json) := [("event_name", .str "START")]

theorem hasDistinctKeys_startEvent : (Json.obj startEvent).HasDistinctKeys :=
  .obj (by decide) (List.forall_mem_singleton.2 (.str _))

theorem isLoggable_startEvent : IsLoggable startEvent :=
  Json.isScalar_canonical_iff.1 (Text.isScalar_of_any (by decide +kernel))

/-- The event is taken over every file with a last hash that can be read. -/
theorem append_startEvent {previous : Text} (h : lastHash (some state) = .ok previous)
    (log : Bytes) : ∃ bs hash, line previous startEvent = .ok (bs, hash) ∧
      (directory (some log) (some state) true).append startEvent =
        (.ok hash, .directory (some (log ++ bs)) (some (Bytes.ofAscii hash ++ [0x0A])) true) := by
  obtain ⟨bs, hash, hline⟩ := line_of_loggable (pairs_of_lastHash h) isLoggable_startEvent
  exact ⟨bs, hash, hline, append_of_line (directory_ne_blocked _ _ _) h hline⟩

/-- The files of a trail with one event. -/
def started : Trail := (Trail.missing.append startEvent).2
def startedLog : Bytes := started.log?.getD []
def startedState : Bytes := started.state?.getD []

/-- The log holds the line of the event, and a line break. -/
theorem startedLog_eq : ∃ hash body,
    Utf8.encode? (lineText genesis hash startEvent) = some body ∧ startedLog = body ++ [0x0A] ∧
      Good startedLog startedState [lineText genesis hash startEvent] hash := by
  have hnothing : Utf8.decode? [] = some [] := Utf8.decode?_ascii (t := []) rfl
  have hempty : Good [] [] [] genesis :=
    ⟨⟨[], hnothing, rfl⟩, .nil, by rw [Verdict.stateText?, hnothing]; rfl⟩
  have ends : EndsBlank [] := ⟨[], [], [], hnothing, rfl, rfl⟩
  obtain ⟨bs, hash, hline⟩ := line_of_loggable (pairs_of_lastHash hempty.lastHash)
    isLoggable_startEvent
  have hstarted : started = directory (some bs) (some (Bytes.ofAscii hash ++ [0x0A])) true := by
    have happend : missing.append startEvent = _ := append_of_line missing_ne_blocked rfl hline
    rw [started, happend]
    rfl
  obtain ⟨-, body, hbody, rfl⟩ := line_eq_ok hline
  have hgood := hempty.append ends hasDistinctKeys_startEvent hline
  refine ⟨hash, body, hbody, by rw [startedLog, hstarted]; rfl, ?_⟩
  rw [startedLog, startedState, hstarted]
  exact hgood

/-- A line break ends the log. -/
theorem endsBlank_startedLog : EndsBlank startedLog := by
  obtain ⟨hash, body, hbody, hlog, -⟩ := startedLog_eq
  have hbreak : Utf8.encode? [CodePoint.ofNat 0x0A] = some [0x0A] := by decide
  have hdecode := Utf8.decode?_encode? (Utf8.encode?_append hbody hbreak)
  have hlines := Text.lines_ended (List.forall_mem_singleton.2
    (no_control_lineText genesis hash startEvent))
  rw [Text.ended, List.flatMap_singleton] at hlines
  exact ⟨_, [_], [], hlog ▸ hdecode, hlines, rfl⟩

/-- Without that line break, the log is as good. -/
theorem good_unended : ∃ hash, ¬ EndsBlank startedLog.dropLast ∧
    Good startedLog.dropLast startedState [lineText genesis hash startEvent] hash := by
  obtain ⟨hash, body, hbody, hlog, hgood⟩ := startedLog_eq
  obtain ⟨htrim, hne⟩ := trim_lineText genesis hash startEvent
  have hdecode := Utf8.decode?_encode? hbody
  have hlines := Text.lines_of_visible (no_control_lineText genesis hash startEvent)
  rw [hlog, List.dropLast_concat]
  refine ⟨hash, ?_, ⟨_, hdecode, ?_⟩, hgood.spans, hgood.state⟩
  · rintro ⟨t, before, last, htext, hlast, hblank⟩
    obtain rfl := Option.some.inj (hdecode.symm.trans htext)
    have honly : [] ++ [lineText genesis hash startEvent] = before ++ [last] :=
      hlines.symm.trans hlast
    obtain ⟨-, h⟩ := List.append_inj' honly rfl
    cases h
    exact hne (htrim.symm.trans hblank)
  · rw [hlines, entriesOf_cons_filled (by rwa [htrim]), htrim]
    rfl

/-- The log that the writer leaves takes the next event on a line of its own. -/
theorem started_log_stays_good : ∃ v hash trail',
    Verdict.verify "audit.jsonl" (.file startedLog) (some ("audit.state", .file startedState)) =
        .ok v ∧
      v.ok = true ∧ (Json.obj startEvent).HasDistinctKeys ∧
      (directory (some startedLog) (some startedState) true).append startEvent =
        (.ok hash, trail') ∧
      ∃ log' state', trail'.log? = some log' ∧ trail'.state? = some state' ∧
        Verdict.verify "audit.jsonl" (.file log') (some ("audit.state", .file state')) =
          .ok ⟨true, v.lines + 1, some hash, "OK"⟩ := by
  obtain ⟨first, body, -, -, hgood⟩ := startedLog_eq
  obtain ⟨bs, hash, -, happend⟩ := append_startEvent hgood.lastHash startedLog
  have hverify := hgood.verify "audit.jsonl" "audit.state"
  exact ⟨_, hash, _, hverify, rfl, hasDistinctKeys_startEvent, happend,
    (append_keeps_good_iff hverify rfl hasDistinctKeys_startEvent happend).2 endsBlank_startedLog⟩

/-- **Where the line break is missing, the next event ends up on the line of the last**, and the log
that was good does not become one line longer. -/
theorem unended_log_gets_no_line : ∃ v hash trail',
    Verdict.verify "audit.jsonl" (.file startedLog.dropLast)
        (some ("audit.state", .file startedState)) = .ok v ∧
      v.ok = true ∧ (Json.obj startEvent).HasDistinctKeys ∧
      (directory (some startedLog.dropLast) (some startedState) true).append startEvent =
        (.ok hash, trail') ∧
      ¬ ∃ log' state', trail'.log? = some log' ∧ trail'.state? = some state' ∧
        Verdict.verify "audit.jsonl" (.file log') (some ("audit.state", .file state')) =
          .ok ⟨true, v.lines + 1, some hash, "OK"⟩ := by
  obtain ⟨first, unended, hgood⟩ := good_unended
  obtain ⟨bs, hash, hline, happend⟩ := append_startEvent hgood.lastHash startedLog.dropLast
  refine ⟨_, hash, _, hgood.verify _ _, rfl, hasDistinctKeys_startEvent, happend, ?_⟩
  rintro ⟨log', state', hlog, -, hverify⟩
  cases hlog
  exact hgood.not_verify_longer unended hline hverify

end Trail

end Audit

end Issuance
