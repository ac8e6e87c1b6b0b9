import Issuance.Audit.Verdict
import Issuance.Proofs.Audit.Digest

/-!
# Issuance.Proofs.Audit.Passage

**How the verifier goes through a log.** Lines span two hashes if they lead from the one to the other,
each linked to the line before it (`Spans`). The verifier comes to the end of lines exactly if those
that count span the hash it starts from and some other (`checkLines_eq_ok_iff`), and its verdict is
good exactly if they span the whole chain and the file with the last hash has the hash they end at
(`verify_good_iff`). What good logs have in common is read off that, not off the verifier's loop.
-/

namespace Issuance

namespace Audit

/-! ### Lines that count -/

/-- The lines of a log that count: the blank ones do not, nor does what is blank around the
others. -/
def entriesOf (raws : List Text) : List Text := (raws.map Text.trim).filter (!·.isEmpty)

/-- The lines of a log that count, given the bytes of the log. -/
def entries (contents : Bytes) : List Text :=
  match Utf8.decode? contents with
  | none => []
  | some t => entriesOf (Text.lines t)

theorem entriesOf_append (raws more : List Text) :
    entriesOf (raws ++ more) = entriesOf raws ++ entriesOf more := by
  unfold entriesOf
  rw [List.map_append, List.filter_append]

theorem entriesOf_cons_blank {raw : Text} (h : raw.trim = []) (raws : List Text) :
    entriesOf (raw :: raws) = entriesOf raws := by
  simp [entriesOf, h]

theorem entriesOf_cons_filled {raw : Text} (h : raw.trim ≠ []) (raws : List Text) :
    entriesOf (raw :: raws) = raw.trim :: entriesOf raws := by
  simp [entriesOf, h]

/-! ### One line after another -/

theorem chainHash_eq_ok {previous hash : Text} {event : List (Text × Json)}
    (h : chainHash previous event = .ok hash) :
    ∃ head body, Hex.decode? previous = some head ∧
      Json.canonicalBytes? (.obj (unlinked event)) = some body ∧
      hashInput previous event = .ok (head ++ body) ∧ hash = digest (head ++ body) := by
  unfold chainHash hashInput at *
  cases hhead : Hex.decode? previous with
  | none =>
    rw [hhead] at h
    cases h
  | some head =>
    rw [hhead] at h
    dsimp only at h
    cases hbody : Json.canonicalBytes? (.obj (unlinked event)) with
    | none =>
      rw [hbody] at h
      cases h
    | some body =>
      rw [hbody] at h
      cases h
      exact ⟨head, body, rfl, rfl, rfl, rfl⟩

theorem isDigest_of_chainHash {previous hash : Text} {event : List (Text × Json)}
    (h : chainHash previous event = .ok hash) : IsDigest hash := by
  obtain ⟨head, body, -, -, -, rfl⟩ := chainHash_eq_ok h
  exact isDigest_digest _

/-- A line that names the hash before it and has the given hash. -/
def Verdict.Links (previous line hash : Text) : Prop :=
  ∃ members, Json.read? line = some (.obj members) ∧
    claimedHash? members previousField = some previous ∧
    claimedHash? members hashField = some hash ∧ chainHash previous members = .ok hash

/-- Lines span two hashes: the first line is linked to the one hash, every other to the line before
it, and the last line has the other hash. -/
inductive Spans : Text → List Text → Text → Prop
  | nil {hash : Text} : Spans hash [] hash
  | cons {previous line next hash : Text} {lines : List Text} :
    Verdict.Links previous line next → Spans next lines hash → Spans previous (line :: lines) hash

theorem Spans.isDigest {previous hash : Text} {lines : List Text} (h : Spans previous lines hash)
    (hprevious : IsDigest previous) : IsDigest hash := by
  induction h with
  | nil => exact hprevious
  | cons hlinks _ ih =>
    obtain ⟨members, -, -, -, hchain⟩ := hlinks
    exact ih (isDigest_of_chainHash hchain)

theorem Spans.concat {previous last line hash : Text} {lines : List Text}
    (h : Spans previous lines last) (hlinks : Verdict.Links last line hash) :
    Spans previous (lines ++ [line]) hash := by
  induction h with
  | nil => exact .cons hlinks .nil
  | cons hfirst _ ih => exact .cons hfirst (ih hlinks)

/-- The hash that lines end at, where there are any. -/
def newest? (lines : List Text) (hash : Text) : Option Text :=
  if lines = [] then none else some hash

@[simp] theorem newest?_nil (hash : Text) : newest? [] hash = none := rfl

@[simp] theorem newest?_cons (line : Text) (lines : List Text) (hash : Text) :
    newest? (line :: lines) hash = some hash := if_neg (List.cons_ne_nil line lines)

@[simp] theorem newest?_concat (lines : List Text) (line hash : Text) :
    newest? (lines ++ [line]) hash = some hash := if_neg (by simp)

namespace Verdict

theorem checkLine_eq_ok {previous line hash : Text} :
    checkLine previous line = .ok (.ok hash) ↔ Links previous line hash := by
  unfold checkLine
  constructor
  · intro h
    split at h
    · cases h
    · rename_i members hread
      split at h
      · rename_i previousClaimed claimed hprevious hclaimed
        split at h
        · cases h
        · rename_i heq
          split at h
          · cases h
          · rename_i expected hchain
            split at h
            · cases h
            · rename_i hsame
              obtain rfl : claimed = hash := by
                simpa using h
              simp only [ne_eq, Decidable.not_not] at heq hsame
              subst heq hsame
              exact ⟨members, hread, hprevious, hclaimed, hchain⟩
      · cases h
    · cases h
  · rintro ⟨members, hread, hprevious, hclaimed, hchain⟩
    simp only [hread, hprevious, hclaimed, hchain, ne_eq, not_true_eq_false, if_false]

/-! ### All lines -/

variable {logPath : Text} {number : Nat} {p p' : Progress} {raws : List Text} {log : Bytes}

theorem checkLines_cons_blank {raw : Text} (h : raw.trim = []) :
    checkLines logPath number p (raw :: raws) = checkLines logPath (number + 1) p raws := by
  rw [checkLines, h]
  rfl

/-- A line that counts is checked, and if it is good, so are the others. -/
theorem checkLines_cons_filled {raw : Text} (h : raw.trim ≠ []) :
    checkLines logPath number p (raw :: raws) = match checkLine p.previous raw.trim with
      | .error e => .error e
      | .ok (.error fault) => .ok (.error ⟨false, p.lines + 1, p.lastHash,
          logPath ++ ":" ++ Text.ofNat number ++ ": " ++ fault.message⟩)
      | .ok (.ok hash) => checkLines logPath (number + 1) ⟨p.lines + 1, some hash⟩ raws := by
  have hne : ¬ raw.trim.isEmpty = true := by rwa [List.isEmpty_iff]
  rw [checkLines]
  exact if_neg hne

/-- How far a log has been checked after more lines that lead to a hash. -/
def Progress.past (p : Progress) (lines : List Text) (hash : Text) : Progress :=
  ⟨p.lines + lines.length, (newest? lines hash).or p.lastHash⟩

theorem Progress.past_cons {next hash : Text} {lines : List Text} (h : Spans next lines hash)
    (p : Progress) (line : Text) :
    Progress.past ⟨p.lines + 1, some next⟩ lines hash = p.past (line :: lines) hash := by
  unfold Progress.past
  rw [List.length_cons, newest?_cons, Nat.add_assoc, Nat.add_comm 1]
  cases h with
  | nil => rfl
  | cons => rw [newest?_cons, Option.some_or, Option.some_or]

/-- **The verifier comes to the end of lines that span two hashes**, and of no others. -/
theorem checkLines_eq_ok_iff : checkLines logPath number p raws = .ok (.ok p') ↔
    ∃ hash, Spans p.previous (entriesOf raws) hash ∧ p' = p.past (entriesOf raws) hash := by
  induction raws generalizing number p with
  | nil =>
    constructor
    · intro h
      cases h
      exact ⟨_, .nil, rfl⟩
    · rintro ⟨hash, -, rfl⟩
      rfl
  | cons raw raws ih =>
    by_cases hblank : raw.trim = []
    · rw [checkLines_cons_blank hblank, entriesOf_cons_blank hblank]
      exact ih
    · rw [checkLines_cons_filled hblank, entriesOf_cons_filled hblank]
      constructor
      · intro h
        split at h
        · cases h
        · cases h
        · rename_i next hcheck
          obtain ⟨hash, hspans, rfl⟩ := ih.1 h
          exact ⟨hash, .cons (checkLine_eq_ok.1 hcheck) hspans, Progress.past_cons hspans p _⟩
      · rintro ⟨hash, hspans, rfl⟩
        cases hspans with
        | cons hlinks hspans =>
          rw [checkLine_eq_ok.2 hlinks]
          exact ih.2 ⟨hash, hspans, (Progress.past_cons hspans p _).symm⟩

theorem ok_of_checkLines_error {v : Verdict}
    (h : checkLines logPath number p raws = .ok (.error v)) : v.ok = false := by
  induction raws generalizing number p with
  | nil => cases h
  | cons raw raws ih =>
    by_cases hblank : raw.trim = []
    · rw [checkLines_cons_blank hblank] at h
      exact ih h
    · rw [checkLines_cons_filled hblank] at h
      split at h
      · cases h
      · cases h
        rfl
      · exact ih h

/-- A log is good to its end if it is text whose lines lead from the beginning of the chain to some
hash. -/
theorem checkLog_eq_ok_iff : checkLog logPath log = .ok (.ok p) ↔
    ∃ t hash, Utf8.decode? log = some t ∧ Spans genesis (entriesOf (Text.lines t)) hash ∧
      p = Progress.past ⟨0, none⟩ (entriesOf (Text.lines t)) hash := by
  unfold checkLog
  constructor
  · intro h
    split at h
    · rename_i t hdecode
      obtain ⟨hash, hspans, rfl⟩ := checkLines_eq_ok_iff.1 h
      exact ⟨t, hash, hdecode, hspans, rfl⟩
    · split at h <;> cases h
  · rintro ⟨t, hash, hdecode, hspans, rfl⟩
    rw [hdecode]
    exact checkLines_eq_ok_iff.2 ⟨hash, hspans, rfl⟩

theorem ok_of_checkLog_error {v : Verdict} (h : checkLog logPath log = .ok (.error v)) :
    v.ok = false := by
  unfold checkLog at h
  split at h
  · exact ok_of_checkLines_error h
  · split at h
    · rename_i hlines
      cases h
      exact ok_of_checkLines_error hlines
    · cases h
    · cases h

/-! ### The last hash -/

/-- The text that a file with the last hash holds. -/
def stateText? (state : Bytes) : Option Text :=
  (Utf8.decode? state).map fun t => t.unifyLineBreaks.trim

theorem checkState_good_iff {statePath : Text} {state : Bytes} {v : Verdict} :
    (checkState p statePath (.file state) = .ok v ∧ v.ok = true) ↔
      stateText? state = some (p.lastHash.getD []) ∧ v = ⟨true, p.lines, p.lastHash, "OK"⟩ := by
  unfold checkState stateText?
  dsimp only
  constructor
  · rintro ⟨h, hok⟩
    split at h
    · cases h
    · rename_i t hdecode
      split at h
      · rename_i hstate
        cases h
        exact ⟨by rw [hdecode, Option.map_some, hstate], rfl⟩
      · cases h
        cases hok
  · rintro ⟨hstate, rfl⟩
    obtain ⟨t, hdecode, htrim⟩ := Option.map_eq_some_iff.1 hstate
    rw [hdecode]
    exact ⟨if_pos htrim, rfl⟩

end Verdict

/-- A log is good, with these lines up to this hash: it is text, its lines that count are a chain, and
the file with the last hash has the hash of the last line, or nothing if there is no line. -/
structure Good (log state : Bytes) (lines : List Text) (hash : Text) : Prop where
  text : ∃ t, Utf8.decode? log = some t ∧ entriesOf (Text.lines t) = lines
  spans : Spans genesis lines hash
  state : Verdict.stateText? state = some ((newest? lines hash).getD [])

theorem Good.isDigest {log state : Bytes} {lines : List Text} {hash : Text}
    (h : Good log state lines hash) : IsDigest hash := h.spans.isDigest isDigest_genesis

theorem Good.entries_eq {log state : Bytes} {lines : List Text} {hash : Text}
    (h : Good log state lines hash) : entries log = lines := by
  obtain ⟨⟨t, hdecode, rfl⟩, -, -⟩ := h
  rw [entries, hdecode]

/-- **A verdict is good exactly if the log is.** -/
theorem Verdict.verify_good_iff {logPath statePath : Text} {log state : Bytes} {v : Verdict} :
    (verify logPath (.file log) (some (statePath, .file state)) = .ok v ∧ v.ok = true) ↔
      ∃ lines hash, Good log state lines hash ∧
        v = ⟨true, lines.length, newest? lines hash, "OK"⟩ := by
  have hpast : ∀ lines hash, Progress.past ⟨0, none⟩ lines hash =
      ⟨lines.length, newest? lines hash⟩ := by
    intro lines hash
    rw [Progress.past, Nat.zero_add, Option.or_none]
  unfold verify
  dsimp only
  constructor
  · rintro ⟨h, hok⟩
    split at h
    · cases h
    · -- the first line that is wrong has a verdict, which is not good
      rename_i hlog
      cases h
      rw [ok_of_checkLog_error hlog] at hok
      cases hok
    · rename_i p hlog
      obtain ⟨t, hash, htext, hspans, rfl⟩ := checkLog_eq_ok_iff.1 hlog
      rw [hpast] at h
      obtain ⟨hstate, rfl⟩ := checkState_good_iff.1 ⟨h, hok⟩
      exact ⟨_, hash, ⟨⟨t, htext, rfl⟩, hspans, hstate⟩, rfl⟩
  · rintro ⟨lines, hash, ⟨⟨t, htext, rfl⟩, hspans, hstate⟩, rfl⟩
    rw [checkLog_eq_ok_iff.2 ⟨t, hash, htext, hspans, rfl⟩, hpast]
    exact checkState_good_iff.2 ⟨hstate, rfl⟩

theorem Good.verify {log state : Bytes} {lines : List Text} {hash : Text}
    (h : Good log state lines hash) (logPath statePath : Text) :
    Verdict.verify logPath (.file log) (some (statePath, .file state)) =
      .ok ⟨true, lines.length, newest? lines hash, "OK"⟩ :=
  (Verdict.verify_good_iff.2 ⟨lines, hash, h, rfl⟩).1

end Audit

end Issuance
