import Issuance.Proofs.Audit.Publish
import Issuance.Proofs.Text.Utf8

/-!
# Issuance.Proofs.Audit.Log

**What is appended verifies.** `Trail.appendAll` appends events one after the other and leaves out
those that cannot be written. Every append keeps the log such that `Trail.Logs` says what is in it:
the lines of the events, each linked to the one before it. Such a log verifies against the last hash
that was left, and its lines tell the events that were taken (`appendAll_verifies`).
-/

namespace Issuance

namespace Audit

variable {previous hash : Text} {event : List (Text × Json)}

/-! ### What was logged -/

/-- Events that were taken, each with the hash that was given back for it. -/
abbrev Taken := List (List (Text × Json) × Text)

/-- Lines tell events, each with its hash: a line is read as its event, up to the order of members,
with chain fields in place of any that the event had. The first line is linked to the given hash,
each other to the one before it. -/
inductive Tells : Text → List Text → Taken → Prop
  | nil {previous : Text} : Tells previous [] []
  | cons {previous line hash : Text} {event : List (Text × Json)} {v : Json} {lines : List Text}
    {done : Taken} : Json.read? line = some v →
    Json.Same (.obj (linked previous hash event)) v → Tells hash lines done →
    Tells previous (line :: lines) ((event, hash) :: done)

/-- The hashes are those of the events, the first after the given hash and each other after the hash
before it. -/
inductive Hashed : Text → Taken → Prop
  | nil {previous : Text} : Hashed previous []
  | cons {previous hash : Text} {event : List (Text × Json)} {done : Taken} :
    (Json.obj event).HasDistinctKeys → chainHash previous event = .ok hash → Hashed hash done →
    Hashed previous ((event, hash) :: done)

/-- The hash of the last event, or the one that the first is linked to. -/
def lastOf (previous : Text) : Taken → Text
  | [] => previous
  | (_, hash) :: done => lastOf hash done

/-- The lines of events with their hashes. -/
def linesOf (previous : Text) : Taken → List Text
  | [] => []
  | (event, hash) :: done => lineText previous hash event :: linesOf hash done

variable {done : Taken}

theorem lastOf_concat (previous : Text) (done : Taken) (event : List (Text × Json)) (hash : Text) :
    lastOf previous (done ++ [(event, hash)]) = hash := by
  induction done generalizing previous with
  | nil => rfl
  | cons e done ih => exact ih e.2

theorem linesOf_concat (previous : Text) (done : Taken) (event : List (Text × Json))
    (hash : Text) :
    linesOf previous (done ++ [(event, hash)]) =
      linesOf previous done ++ [lineText (lastOf previous done) hash event] := by
  induction done generalizing previous with
  | nil => rfl
  | cons e done ih =>
    show _ :: linesOf e.2 (done ++ [(event, hash)]) = _
    rw [ih]
    rfl

theorem length_linesOf (previous : Text) (done : Taken) :
    (linesOf previous done).length = done.length := by
  induction done generalizing previous with
  | nil => rfl
  | cons e done ih => exact congrArg (· + 1) (ih e.2)

theorem getLast?_eq_lastOf (hne : done ≠ []) (previous : Text) :
    done.getLast?.map Prod.snd = some (lastOf previous done) := by
  induction done generalizing previous with
  | nil => exact absurd rfl hne
  | cons e done ih =>
    cases done with
    | nil => rfl
    | cons e' done => exact ih (List.cons_ne_nil e' done) e.2

theorem no_control_linesOf {line : Text} (h : line ∈ linesOf previous done) :
    ∀ c ∈ line, 0x20 ≤ c.value := by
  induction done generalizing previous with
  | nil => cases h
  | cons e done ih =>
    rcases List.mem_cons.1 h with rfl | h
    · exact no_control_lineText _ _ _
    · exact ih h

/-- All lines that were logged count, and nothing else does. -/
theorem entriesOf_linesOf (previous : Text) (done : Taken) :
    entriesOf (linesOf previous done ++ [[]]) = linesOf previous done := by
  induction done generalizing previous with
  | nil => rfl
  | cons e done ih =>
    obtain ⟨htrim, hne⟩ := trim_lineText previous e.2 e.1
    have hrest := ih e.2
    unfold entriesOf at hrest ⊢
    rw [linesOf, List.cons_append, List.map_cons, htrim,
      List.filter_cons_of_pos (by simpa using hne), hrest]

/-- The lines are found again in their bytes. -/
theorem entries_linesOf {bs : Bytes}
    (h : Utf8.encode? (Text.ended (linesOf previous done)) = some bs) :
    entries bs = linesOf previous done := by
  unfold entries
  rw [Utf8.decode?_encode? h]
  dsimp only
  rw [Text.lines_ended fun line hline => no_control_linesOf hline, entriesOf_linesOf]

theorem Hashed.concat (h : Hashed previous done) (hevent : (Json.obj event).HasDistinctKeys)
    (hchain : chainHash (lastOf previous done) event = .ok hash) :
    Hashed previous (done ++ [(event, hash)]) := by
  induction h with
  | nil => exact .cons hevent hchain .nil
  | cons hevent' hchain' _ ih => exact .cons hevent' hchain' (ih hchain)

/-- The lines tell what was logged. -/
theorem Hashed.tells (h : Hashed previous done) : Tells previous (linesOf previous done) done := by
  induction h with
  | nil => exact .nil
  | @cons previous hash event done hevent _ _ ih =>
    have hlinked := hasDistinctKeys_linked hevent previous hash
    exact .cons (Json.read?_canonical hlinked) (Json.same_sorted hlinked) ih

theorem Hashed.isDigest (h : Hashed previous done) (hprevious : IsDigest previous) :
    IsDigest (lastOf previous done) := by
  induction h with
  | nil => exact hprevious
  | cons _ hchain _ ih => exact ih (isDigest_of_chainHash hchain)

/-- **The lines that were logged lead to the last hash.** -/
theorem Hashed.spans (h : Hashed previous done) (hprevious : IsDigest previous) :
    Spans previous (linesOf previous done) (lastOf previous done) := by
  induction h with
  | nil => exact .nil
  | cons hevent hchain _ ih =>
    exact .cons (links_lineText hevent hprevious hchain) (ih (isDigest_of_chainHash hchain))

namespace Verdict

/-- A log that is good to its end verifies against its last hash. -/
theorem verify_of_checkLog {logPath : Text} {log : Bytes} {p : Progress}
    (hlog : checkLog logPath log = .ok (.ok p)) {hash : Text} (hlast : p.lastHash = some hash)
    (hdigest : IsDigest hash) (statePath : Text) :
    verify logPath (.file log) (some (statePath, .file (Bytes.ofAscii hash ++ [0x0A]))) =
      .ok ⟨true, p.lines, some hash, "OK"⟩ := by
  obtain ⟨u, hu, htrim⟩ := decode?_line hdigest
  unfold verify
  dsimp only
  rw [hlog]
  unfold checkState
  dsimp only
  rw [hu]
  dsimp only
  rw [htrim, hlast, Option.getD_some, if_pos rfl]

end Verdict

/-! ### Appending -/

namespace Trail

/-- Appends events one after the other. The result is the events that were taken, with the hashes
that were given back for them, and the trail that is left. -/
def appendAll (trail : Trail) : List (List (Text × Json)) → Taken × Trail
  | [] => ([], trail)
  | event :: events => match trail.append event with
    | (.ok hash, trail) => ((event, hash) :: (appendAll trail events).1, (appendAll trail events).2)
    | (.error _, trail) => appendAll trail events

/-- What is in a trail to which events were appended, and nothing else was done: their lines, and
the hash of the last. -/
structure Logs (trail : Trail) (done : Taken) : Prop where
  hashed : Hashed genesis done
  log : Utf8.encode? (Text.ended (linesOf genesis done)) = some (trail.log?.getD [])
  last : lastHash trail.state? = .ok (lastOf genesis done)
  files : done ≠ [] → trail.log?.isSome ∧
    trail.state? = some (Bytes.ofAscii (lastOf genesis done) ++ [0x0A])

theorem logs_empty {trail : Trail} (hlog : trail.log? = none) (hstate : trail.state? = none) :
    trail.Logs [] where
  hashed := .nil
  log := by
    rw [hlog]
    rfl
  last := by
    rw [hstate]
    rfl
  files := fun hne => absurd rfl hne

/-- An append that goes well adds the event to what is in the trail. -/
theorem Logs.step {trail trail' : Trail} {done : Taken} (h : trail.Logs done)
    {event : List (Text × Json)} (hevent : (Json.obj event).HasDistinctKeys) {hash : Text}
    (happend : trail.append event = (.ok hash, trail')) :
    trail'.Logs (done ++ [(event, hash)]) := by
  obtain ⟨-, previous, bs, hlast, hline, rfl⟩ := append_eq_ok happend
  rw [h.last] at hlast
  cases hlast
  obtain ⟨hchain, body, hbody, rfl⟩ := line_eq_ok hline
  have hbreak : Utf8.encode? [CodePoint.ofNat 0x0A] = some [0x0A] := by decide
  constructor
  · exact h.hashed.concat hevent hchain
  · rw [linesOf_concat, Text.ended_concat]
    exact Utf8.encode?_append h.log (Utf8.encode?_append hbody hbreak)
  · rw [lastOf_concat]
    exact lastHash_line (isDigest_of_chainHash hchain)
  · rw [lastOf_concat]
    exact fun _ => ⟨rfl, rfl⟩

/-- **What is in a trail after appends**, whichever of them went well. -/
theorem Logs.appendAll {trail trail' : Trail} {done more : Taken} (h : trail.Logs done)
    {events : List (List (Text × Json))}
    (hevents : ∀ event ∈ events, (Json.obj event).HasDistinctKeys)
    (hrun : trail.appendAll events = (more, trail')) : trail'.Logs (done ++ more) := by
  induction events generalizing trail done more with
  | nil =>
    cases hrun
    rwa [List.append_nil]
  | cons event events ih =>
    have hrest := fun e he => hevents e (List.mem_cons_of_mem event he)
    rw [Trail.appendAll] at hrun
    split at hrun
    · rename_i hash trail₁ happend
      cases hrun
      have hstep := ih (h.step (hevents event List.mem_cons_self) happend) hrest rfl
      rwa [List.append_assoc] at hstep
    · rename_i trail₁ happend
      obtain ⟨hlog, hstate⟩ := append_eq_error happend
      refine ih ⟨h.hashed, ?_, ?_, ?_⟩ hrest hrun
      · rw [hlog]
        exact h.log
      · rw [hstate]
        exact h.last
      · rw [hlog, hstate]
        exact h.files

/-- The lines of such a trail's log are those of what was appended. -/
theorem Logs.entries_eq {trail : Trail} {done : Taken} (h : trail.Logs done) :
    entries (trail.log?.getD []) = linesOf genesis done :=
  entries_linesOf h.log

/-- The log of such a trail is good to its end, and its lines are those of what was appended. -/
theorem Logs.checkLog {trail : Trail} {done : Taken} (h : trail.Logs done) (hne : done ≠ []) :
    ∃ log, trail.log? = some log ∧ entries log = linesOf genesis done ∧ ∀ logPath,
      Verdict.checkLog logPath log = .ok (.ok ⟨done.length, some (lastOf genesis done)⟩) := by
  obtain ⟨log, hlog⟩ := Option.isSome_iff_exists.1 (h.files hne).1
  have hencode := h.log
  rw [hlog, Option.getD_some] at hencode
  have hdecode := Utf8.decode?_encode? hencode
  have hlines : Text.lines (Text.ended (linesOf genesis done)) = linesOf genesis done ++ [[]] :=
    Text.lines_ended fun line hline => no_control_linesOf hline
  refine ⟨log, hlog, ?_, fun logPath => ?_⟩
  · have hentries := h.entries_eq
    rwa [hlog] at hentries
  · refine Verdict.checkLog_eq_ok_iff.2 ⟨_, lastOf genesis done, hdecode, ?_, ?_⟩
    · rw [hlines, entriesOf_linesOf]
      exact h.hashed.spans isDigest_genesis
    · obtain ⟨e, rest, rfl⟩ := List.exists_cons_of_ne_nil hne
      rw [hlines, entriesOf_linesOf, Verdict.Progress.past, length_linesOf, Nat.zero_add, linesOf,
        newest?_cons, Option.some_or]

/-- Such a trail verifies, and its log tells what was appended. -/
theorem Logs.verifies {trail : Trail} {done : Taken} (h : trail.Logs done) (hne : done ≠ [])
    (logPath statePath : Text) :
    ∃ log state, trail.log? = some log ∧ trail.state? = some state ∧
      Verdict.verify logPath (.file log) (some (statePath, .file state)) =
        .ok ⟨true, done.length, done.getLast?.map Prod.snd, "OK"⟩ ∧
      Tells genesis (entries log) done := by
  obtain ⟨log, hlog, hentries, hcheck⟩ := h.checkLog hne
  have hdigest := h.hashed.isDigest isDigest_genesis
  refine ⟨log, _, hlog, (h.files hne).2, ?_, ?_⟩
  · rw [getLast?_eq_lastOf hne genesis]
    exact Verdict.verify_of_checkLog (hcheck logPath) rfl hdigest statePath
  · rw [hentries]
    exact h.hashed.tells

/-- **What is appended verifies.** However many events are appended to a trail without files,
whichever of them cannot be written: if any is taken, the log verifies against the last hash, its
lines are as many as the events that were taken, and they tell these events. -/
theorem appendAll_verifies {trail trail' : Trail} (hlog : trail.log? = none)
    (hstate : trail.state? = none) {events : List (List (Text × Json))}
    (hevents : ∀ event ∈ events, (Json.obj event).HasDistinctKeys)
    {done : Taken} (hrun : trail.appendAll events = (done, trail')) (hne : done ≠ [])
    (logPath statePath : Text) :
    ∃ log state, trail'.log? = some log ∧ trail'.state? = some state ∧
      Verdict.verify logPath (.file log) (some (statePath, .file state)) =
        .ok ⟨true, done.length, done.getLast?.map Prod.snd, "OK"⟩ ∧
      Tells genesis (entries log) done :=
  ((logs_empty hlog hstate).appendAll hevents hrun).verifies hne logPath statePath

/-- Events that are appended one after the other: the first names a hash of its own, and the second
has no UTF-8 form. -/
def sampleEvents : List (List (Text × Json)) :=
  [[("event_name", .str "START"), ("hash", .str "forged"), ("ratio", .float .nan)],
    [("event_name", .str [CodePoint.ofNat 0xD800])],
    [("user", .obj [("balance", .float (.infinity true))]), ("items", .arr [.null, .int 1])]]

theorem hasDistinctKeys_sampleEvents :
    ∀ event ∈ sampleEvents, (Json.obj event).HasDistinctKeys := by
  intro event hevent
  simp only [sampleEvents, List.mem_cons, List.not_mem_nil, or_false] at hevent
  rcases hevent with rfl | rfl | rfl
  · refine .obj (by decide) (List.forall_mem_cons.2 ⟨.str _, List.forall_mem_cons.2 ⟨.str _, ?_⟩⟩)
    exact List.forall_mem_singleton.2 (.float _)
  · exact .obj (by decide) (List.forall_mem_singleton.2 (.str _))
  · refine .obj (by decide) (List.forall_mem_cons.2 ⟨?_, List.forall_mem_singleton.2 ?_⟩)
    · exact .obj (by decide) (List.forall_mem_singleton.2 (.float _))
    · exact .arr (List.forall_mem_cons.2 ⟨.null, List.forall_mem_singleton.2 (.int 1)⟩)

/-- An event of which all texts can be written is taken. -/
theorem appendAll_ne_nil {trail : Trail} (h : trail.Appendable) {event : List (Text × Json)}
    (hevent : IsWritable event) (events : List (List (Text × Json))) :
    (trail.appendAll (event :: events)).1 ≠ [] := by
  obtain ⟨hash, trail', happend, -⟩ := append_of_appendable h hevent
  rw [appendAll, happend]
  exact List.cons_ne_nil _ _

theorem isWritable_sampleEvent : IsWritable
    [("event_name", .str "START"), ("hash", .str "forged"), ("ratio", .float .nan)] := by
  have hkeys : ∀ key ∈ (["event_name", "hash", "ratio"] : List Text),
      key.any CodePoint.isSurrogate = false := by decide
  intro m hm
  simp only [List.mem_cons, List.not_mem_nil, or_false] at hm
  rcases hm with rfl | rfl | rfl
  · exact ⟨Text.isScalar_of_any (hkeys _ (by simp)), Text.isScalar_of_any (by decide)⟩
  · exact ⟨Text.isScalar_of_any (hkeys _ (by simp)), Text.isScalar_of_any (by decide)⟩
  · exact ⟨Text.isScalar_of_any (hkeys _ (by simp)), Text.isScalar_of_any (by decide)⟩

theorem sampleEvents_verify :
    (Trail.missing.appendAll sampleEvents).1 ≠ [] ∧
      ∃ log state, (Trail.missing.appendAll sampleEvents).2.log? = some log ∧
        (Trail.missing.appendAll sampleEvents).2.state? = some state ∧
        Verdict.verify "audit.jsonl" (.file log) (some ("audit.state", .file state)) =
          .ok ⟨true, (Trail.missing.appendAll sampleEvents).1.length,
            (Trail.missing.appendAll sampleEvents).1.getLast?.map Prod.snd, "OK"⟩ ∧
        Tells genesis (entries log) (Trail.missing.appendAll sampleEvents).1 := by
  have hne : (Trail.missing.appendAll sampleEvents).1 ≠ [] :=
    appendAll_ne_nil appendable_missing isWritable_sampleEvent _
  exact ⟨hne, appendAll_verifies rfl rfl hasDistinctKeys_sampleEvents rfl hne _ _⟩

end Trail

/-! ### Two logs with the same last hash -/

namespace Verdict

/-- A blank line at the beginning of a good log changes nothing. -/
theorem checkLog_blank {logPath : Text} {log : Bytes} {p : Progress}
    (h : checkLog logPath log = .ok (.ok p)) : checkLog logPath (0x0A :: log) = .ok (.ok p) := by
  obtain ⟨t, hash, hdecode, hspans, rfl⟩ := checkLog_eq_ok_iff.1 h
  have hblank : Utf8.decode? (0x0A :: log) = some (CodePoint.ofNat 0x0A :: t) :=
    Utf8.decode?_append (a := [0x0A]) (Utf8.decode?_ascii (t := "\n") rfl) hdecode
  have hlines : Text.lines (CodePoint.ofNat 0x0A :: t) = [] :: Text.lines t := by
    unfold Text.lines
    cases t with
    | nil => rfl
    | cons c t => rfl
  have hentries : entriesOf (Text.lines (CodePoint.ofNat 0x0A :: t)) = entriesOf (Text.lines t) := by
    rw [hlines, entriesOf_cons_blank rfl]
  rw [← hentries] at hspans ⊢
  exact checkLog_eq_ok_iff.2 ⟨_, hash, hblank, hspans, rfl⟩

/-- What is appended verifies with a blank line before it, and both logs hold the same events. -/
theorem blank_line_same_events :
    ∃ log state v, verify "audit.jsonl" (.file log) (some ("audit.state", .file state)) = .ok v ∧
      verify "copy.jsonl" (.file (0x0A :: log)) (some ("copy.state", .file state)) = .ok v ∧
      v.ok = true ∧ ((∃ events, Hold (entries log) events ∧ Hold (entries (0x0A :: log)) events) ∨
        Clash (inputs (entries log) ++ inputs (entries (0x0A :: log)))) := by
  have hne := Trail.appendAll_ne_nil Trail.appendable_missing Trail.isWritable_sampleEvent
    Trail.sampleEvents.tail
  have hempty : Trail.Logs .missing [] := Trail.logs_empty rfl rfl
  have hlogs := hempty.appendAll Trail.hasDistinctKeys_sampleEvents rfl
  obtain ⟨log, -, -, hcheck⟩ := hlogs.checkLog hne
  have hdigest := hlogs.hashed.isDigest isDigest_genesis
  have hlog := verify_of_checkLog (hcheck "audit.jsonl") rfl hdigest "audit.state"
  have hcopy := verify_of_checkLog (checkLog_blank (hcheck "copy.jsonl")) rfl hdigest "copy.state"
  exact ⟨log, _, _, hlog, hcopy, rfl, same_events_or_clash hlog rfl hcopy rfl⟩

end Verdict

end Audit

end Issuance
