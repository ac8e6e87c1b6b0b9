import Issuance.Audit.Command
import Issuance.Proofs.Audit.Head

/-!
# Issuance.Proofs.Audit.Silence

**Files on which the verifier has no verdict.** Whatever is wrong with a line is said in a verdict,
but three things are not lines that are wrong: bytes that are no text, be it in the log or in the file
with the last hash, and an event that cannot be hashed because a text in it has a lone surrogate. Each
counts only if the verifier comes that far (`Silences`). On all other files it gives a verdict, and the
command exits with what the verdict says (`judges_iff`).
-/

namespace Issuance

namespace Audit

namespace Verdict

variable {logPath previous line : Text} {number : Nat} {p : Progress} {raws : List Text}
  {log : Bytes}

/-! ### One line -/

/-- A line that the verifier cannot judge: an event that names the hash before it and a hash of its
own, with a lone surrogate in one of its texts. -/
def Baffles (previous line : Text) : Prop :=
  ∃ members claimed t, Json.read? line = some (.obj members) ∧
    claimedHash? members previousField = some previous ∧
    claimedHash? members hashField = some claimed ∧
    Json.Mentions t (.obj (unlinked members)) ∧ ¬ t.IsScalar

theorem pairs_of_claimedHash? {members : List (Text × Json)} {field t : Text}
    (h : claimedHash? members field = some t) : Hex.Pairs t := by
  unfold claimedHash? at h
  split at h
  · split at h
    · rename_i hhash
      cases h
      exact (isHash_iff.1 hhash).2
    · cases h
  · cases h

theorem checkLine_breaks_iff :
    (∃ e, checkLine previous line = .error e) ↔ Baffles previous line := by
  constructor
  · rintro ⟨e, h⟩
    unfold checkLine at h
    split at h
    · cases h
    · rename_i members hread
      split at h
      · rename_i previousClaimed claimed hprevious hclaimed
        split at h
        · cases h
        · rename_i heq
          rw [ne_eq, Decidable.not_not] at heq
          subst heq
          split at h
          · rename_i hchain
            have hloggable : ¬ IsLoggable members := by
              intro hloggable
              obtain ⟨hash, hok⟩ :=
                chainHash_of_loggable (pairs_of_claimedHash? hprevious) hloggable
              rw [hchain] at hok
              cases hok
            obtain ⟨t, hmention, hlone⟩ := not_isLoggable_iff.1 hloggable
            exact ⟨members, claimed, t, hread, hprevious, hclaimed, hmention, hlone⟩
          · split at h <;> cases h
      · cases h
    · cases h
  · rintro ⟨members, claimed, t, hread, hprevious, hclaimed, hmention, hlone⟩
    have hchain := chainHash_of_not_loggable (pairs_of_claimedHash? hprevious)
      (not_isLoggable_iff.2 ⟨t, hmention, hlone⟩)
    refine ⟨.notEncodable, ?_⟩
    simp only [checkLine, hread, hprevious, hclaimed, hchain, ne_eq, not_true_eq_false, if_false]

/-! ### All lines -/

/-- Lines stall after a hash: good lines lead to one that baffles. -/
inductive Stalls : Text → List Text → Prop
  | here {previous line : Text} {lines : List Text} : Baffles previous line →
    Stalls previous (line :: lines)
  | later {previous line next : Text} {lines : List Text} : Links previous line next →
    Stalls next lines → Stalls previous (line :: lines)

/-- **The verifier breaks down on lines that stall**, and on no others. -/
theorem checkLines_breaks_iff : (∃ e, checkLines logPath number p raws = .error e) ↔
    Stalls p.previous (entriesOf raws) := by
  induction raws generalizing number p with
  | nil =>
    refine iff_of_false ?_ nofun
    rintro ⟨e, h⟩
    cases h
  | cons raw raws ih =>
    by_cases hblank : raw.trim = []
    · rw [checkLines_cons_blank hblank, entriesOf_cons_blank hblank]
      exact ih
    · rw [checkLines_cons_filled hblank, entriesOf_cons_filled hblank]
      constructor
      · rintro ⟨e, h⟩
        split at h
        · rename_i hcheck
          exact .here (checkLine_breaks_iff.1 ⟨_, hcheck⟩)
        · cases h
        · rename_i next hcheck
          exact .later (checkLine_eq_ok.1 hcheck) (ih.1 ⟨e, h⟩)
      · intro h
        cases h with
        | here hbaffles =>
          obtain ⟨e, hcheck⟩ := checkLine_breaks_iff.2 hbaffles
          rw [hcheck]
          exact ⟨e, rfl⟩
        | later hlinks hstalls =>
          rw [checkLine_eq_ok.2 hlinks]
          exact ih.2 hstalls

/-- The lines that are read from a log: all of them, or those that a log which is not text has before
the fault. -/
def readLines (log : Bytes) : List Text :=
  match Utf8.decode? log with
  | some t => Text.lines t
  | none => Stream.linesBeforeFault log

theorem checkLog_breaks_iff : (∃ e, checkLog logPath log = .error e) ↔
    Stalls genesis (entriesOf (readLines log)) ∨
      Utf8.decode? log = none ∧ ∃ hash, Spans genesis (entriesOf (readLines log)) hash := by
  unfold checkLog readLines
  cases Utf8.decode? log with
  | some t => simp [checkLines_breaks_iff, Progress.previous]
  | none =>
    dsimp only
    constructor
    · rintro ⟨e, h⟩
      split at h
      · cases h
      · rename_i hlines
        obtain ⟨hash, hspans, -⟩ := checkLines_eq_ok_iff.1 hlines
        exact .inr ⟨rfl, hash, hspans⟩
      · rename_i hlines
        exact .inl (checkLines_breaks_iff.1 ⟨_, hlines⟩)
    · rintro (hstalls | ⟨-, hash, hspans⟩)
      · obtain ⟨e, hlines⟩ := (checkLines_breaks_iff (p := ⟨0, none⟩)).2 hstalls
        rw [hlines]
        exact ⟨e, rfl⟩
      · rw [(checkLines_eq_ok_iff (p := ⟨0, none⟩)).2 ⟨hash, hspans, rfl⟩]
        exact ⟨_, rfl⟩

/-- What keeps the verifier from a verdict, given the log and, if it is to be checked, the file with
the last hash. -/
inductive Silences (log : Bytes) (state : Option Bytes) : Prop
  /-- A line that baffles, all before it being good. -/
  | line (stalls : Stalls genesis (entriesOf (readLines log)))
  /-- Bytes in the log that are no text, all lines before them being good. -/
  | log {hash : Text} (noText : Utf8.decode? log = none)
    (spans : Spans genesis (entriesOf (readLines log)) hash)
  /-- Bytes in the file with the last hash that are no text, the whole log being good. -/
  | state {t hash : Text} {bs : Bytes} (text : Utf8.decode? log = some t)
    (spans : Spans genesis (entriesOf (Text.lines t)) hash) (given : state = some bs)
    (noText : Utf8.decode? bs = none)

theorem verify_of_breaks {e : NoVerdict} (h : checkLog logPath log = .error e)
    (state : Option (Text × FileContent)) : verify logPath (.file log) state = .error e := by
  unfold verify
  dsimp only
  rw [h]

/-- **The verifier breaks down on files that silence it**, and on no others. -/
theorem verify_breaks_iff (logPath : Text) (log : Bytes) (state : Option (Text × Bytes)) :
    (∃ e, verify logPath (.file log) (state.map fun s => (s.1, .file s.2)) = .error e) ↔
      Silences log (state.map Prod.snd) := by
  constructor
  · rintro ⟨e, h⟩
    unfold verify at h
    dsimp only at h
    split at h
    · rename_i hlog
      rcases checkLog_breaks_iff.1 ⟨_, hlog⟩ with hstalls | ⟨hnone, hash, hspans⟩
      · exact .line hstalls
      · exact .log hnone hspans
    · cases h
    · rename_i p hlog
      obtain ⟨t, hash, htext, hspans, -⟩ := checkLog_eq_ok_iff.1 hlog
      cases state with
      | none => cases h
      | some s =>
        refine .state htext hspans rfl ?_
        by_contra hsome
        obtain ⟨u, hu⟩ := Option.ne_none_iff_exists'.1 hsome
        simp only [Option.map_some, checkState, hu] at h
        split at h <;> cases h
  · intro h
    have hbreaks : (∃ e, checkLog logPath log = .error e) → ∃ e, verify logPath (.file log)
        (state.map fun s => (s.1, .file s.2)) = .error e :=
      fun ⟨e, hlog⟩ => ⟨e, verify_of_breaks hlog _⟩
    cases h with
    | line stalls => exact hbreaks (checkLog_breaks_iff.2 (.inl stalls))
    | log noText spans => exact hbreaks (checkLog_breaks_iff.2 (.inr ⟨noText, _, spans⟩))
    | state text spans given noText =>
      obtain ⟨s, rfl, rfl⟩ := Option.map_eq_some_iff.1 given
      have hlog : checkLog logPath log = .ok (.ok _) :=
        checkLog_eq_ok_iff.2 ⟨_, _, text, spans, rfl⟩
      refine ⟨.notText, ?_⟩
      unfold verify
      simp only [Option.map_some, hlog, checkState, noText]

end Verdict

/-! ### The command -/

namespace Command

variable {contentAt : Text → FileContent} {log : Text} {state : Option Text}

/-- The verifier has a verdict, and the command exits with zero if it is good, with one if not. -/
def Judges (contentAt : Text → FileContent) (log : Text) (state : Option Text) : Prop :=
  ∃ v outcome, Verdict.verify log.normalPath (contentAt log.normalPath)
      (state.map fun p => (p.normalPath, contentAt p.normalPath)) = .ok v ∧
    verify contentAt log (state.elim .absent .path) = .ok outcome ∧
    outcome.exit = if v.ok then 0 else 1

/-- The command prints what the verifier finds. -/
theorem verify_eq (contentAt : Text → FileContent) (log : Text) (state : Option Text) :
    verify contentAt log (state.elim .absent .path) = ofResult
      (Verdict.verify log.normalPath (contentAt log.normalPath)
        (state.map fun p => (p.normalPath, contentAt p.normalPath))) := by
  cases state <;> rfl

theorem exit_ofVerdict (v : Verdict) : (ofVerdict v).exit = if v.ok then 0 else 1 := by
  unfold ofVerdict
  split <;> rfl

/-- **Files are judged unless they silence the verifier**, whatever bytes they hold. -/
theorem judges_iff (state : Option (Text × Bytes)) {contents : Bytes}
    (hlog : contentAt log.normalPath = .file contents)
    (hstate : ∀ s ∈ state, contentAt s.1.normalPath = .file s.2) :
    Judges contentAt log (state.map Prod.fst) ↔
      ¬ Verdict.Silences contents (state.map Prod.snd) := by
  have hfiles : Verdict.verify log.normalPath (contentAt log.normalPath)
      ((state.map Prod.fst).map fun p => (p.normalPath, contentAt p.normalPath)) =
      Verdict.verify log.normalPath (.file contents)
        ((state.map fun s => (s.1.normalPath, s.2)).map fun s => (s.1, .file s.2)) := by
    rw [hlog, Option.map_map, Option.map_map]
    refine congrArg _ (Option.map_congr fun s hs => ?_)
    exact congrArg (s.1.normalPath, ·) (hstate s hs)
  have hbreaks := Verdict.verify_breaks_iff log.normalPath contents
    (state.map fun s => (s.1.normalPath, s.2))
  have hcontents : (state.map fun s => (s.1.normalPath, s.2)).map Prod.snd =
      state.map Prod.snd := Option.map_map ..
  rw [← hfiles, hcontents] at hbreaks
  rw [← hbreaks]
  constructor
  · rintro ⟨v, outcome, hverdict, -⟩ ⟨e, he⟩
    rw [hverdict] at he
    cases he
  · intro h
    cases hverdict : Verdict.verify log.normalPath (contentAt log.normalPath)
        ((state.map Prod.fst).map fun p => (p.normalPath, contentAt p.normalPath)) with
    | error e => exact absurd ⟨e, hverdict⟩ h
    | ok v =>
      refine ⟨v, ofVerdict v, hverdict, ?_, exit_ofVerdict v⟩
      rw [verify_eq, hverdict]
      rfl

/-- Files at two paths, and none elsewhere. -/
def twoFiles (log state : Bytes) (path : Text) : FileContent :=
  if path = "audit.jsonl" then .file log else if path = "audit.state" then .file state else .missing

/-- A line that is wrong is judged, whatever is in the file with the last hash. -/
theorem wrong_line_is_judged :
    (twoFiles (Bytes.ofAscii "[]") [0xFF] (Text.normalPath "audit.jsonl") =
        .file (Bytes.ofAscii "[]") ∧
      twoFiles (Bytes.ofAscii "[]") [0xFF] (Text.normalPath "audit.state") = .file [0xFF]) ∧
      Judges (twoFiles (Bytes.ofAscii "[]") [0xFF]) "audit.jsonl" (some "audit.state") := by
  have hlog : twoFiles (Bytes.ofAscii "[]") [0xFF] (Text.normalPath "audit.jsonl") =
      .file (Bytes.ofAscii "[]") := by decide +kernel
  have hstate : twoFiles (Bytes.ofAscii "[]") [0xFF] (Text.normalPath "audit.state") =
      .file [0xFF] := by decide +kernel
  refine ⟨⟨hlog, hstate⟩, (judges_iff (some ("audit.state", [0xFF])) hlog ?_).2 ?_⟩
  · rintro s hs
    cases hs
    exact hstate
  · intro h
    obtain ⟨e, he⟩ := (Verdict.verify_breaks_iff "audit.jsonl" _
      (some ("audit.state", [0xFF]))).2 h
    have hverdict : Verdict.verify "audit.jsonl" (.file (Bytes.ofAscii "[]"))
        (some ("audit.state", .file [0xFF])) =
        .ok ⟨false, 1, none, "audit.jsonl:1: JSON root must be an object"⟩ := by decide +kernel
    rw [Option.map_some, hverdict] at he
    cases he

/-- **A byte that is no text is enough**: there is no verdict on it. -/
theorem stray_byte_is_not_judged :
    (twoFiles [0xFF] [] (Text.normalPath "audit.jsonl") = .file [0xFF] ∧
      ∀ s ∈ (none : Option (Text × Bytes)), twoFiles [0xFF] [] s.1.normalPath = .file s.2) ∧
      ¬ Judges (twoFiles [0xFF] []) "audit.jsonl" none := by
  have hlog : twoFiles [0xFF] [] (Text.normalPath "audit.jsonl") = .file [0xFF] := by
    decide +kernel
  refine ⟨⟨hlog, nofun⟩, ?_⟩
  rintro ⟨v, outcome, hverdict, -⟩
  rw [hlog] at hverdict
  have hbreaks : Verdict.verify (Text.normalPath "audit.jsonl") (.file [0xFF]) none =
      .error .notText := by decide +kernel
  rw [Option.map_none, hbreaks] at hverdict
  cases hverdict

end Command

end Audit

end Issuance
