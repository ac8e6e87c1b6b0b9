import Issuance.Proofs.Audit.Publish

/-!
# Issuance.Proofs.Audit.Head

**The head of the chain** is the hash of the last event, which a file beside the log keeps. If the
file is missing or blank, the chain has yet to begin; whatever else it holds must be a hash. A hash
is 64 hexadecimal digits, but what passes for one is 64 code points that come to pairs of digits with
white space between them (`isHash_iff`). So a head that is no hash is refused for every event, unless
it has white space in place of some of its digits (`corrupt_head_refused_iff`).
-/

namespace Issuance

namespace Audit

variable {t : Text}

/-! ### What passes for a hash -/

/-- 64 hexadecimal digits. -/
def IsPlainHash (t : Text) : Prop := t.length = 64 ∧ ∀ c ∈ t, c.hexDigit?.isSome

/-- 64 code points that come to fewer digits, because some of them separate pairs. -/
structure IsSpacedHash (t : Text) : Prop where
  length : t.length = 64
  pairs : Hex.Pairs t
  spaced : ∃ c ∈ t, Hex.isSeparator c = true

theorem isHash_iff : isHash t = true ↔ t.length = 64 ∧ Hex.Pairs t := by
  unfold isHash
  rw [Bool.and_eq_true, beq_iff_eq, Hex.decode?_isSome_iff]

/-- **Only white space tells what passes for a hash from a hash.** -/
theorem isHash_iff_plain_or_spaced : isHash t = true ↔ IsPlainHash t ∨ IsSpacedHash t := by
  rw [isHash_iff]
  constructor
  · rintro ⟨hlength, hpairs⟩
    by_cases hspaced : ∃ c ∈ t, Hex.isSeparator c = true
    · exact .inr ⟨hlength, hpairs, hspaced⟩
    · refine .inl ⟨hlength, fun c hc => (hpairs.mem c hc).resolve_right fun hblank => ?_⟩
      exact hspaced ⟨c, hc, hblank⟩
  · rintro (⟨hlength, hdigits⟩ | ⟨hlength, hpairs, -⟩)
    · have heven : t.length = 2 * 32 := hlength
      exact ⟨hlength, .of_digits hdigits heven⟩
    · exact ⟨hlength, hpairs⟩

namespace Trail

variable {state : Option Bytes}

/-! ### Reading the head -/

theorem lastHash_of_no_text {bs : Bytes} (h : Verdict.stateText? bs = none) :
    lastHash (some bs) = .error .stateNotText := by
  have hdecode := Option.map_eq_none_iff.1 h
  unfold lastHash
  dsimp only
  rw [hdecode]

theorem lastHash_of_text {bs : Bytes} (h : Verdict.stateText? bs = some t) :
    lastHash (some bs) = if t = [] then .ok genesis
      else if isHash t then .ok (t.map CodePoint.toLowerAscii) else .error .corruptState := by
  obtain ⟨u, hdecode, rfl⟩ := Option.map_eq_some_iff.1 h
  unfold lastHash
  dsimp only
  rw [hdecode]
  simp only [List.isEmpty_iff]

/-- What is read as the head is pairs of digits. -/
theorem pairs_of_lastHash {previous : Text} (h : lastHash state = .ok previous) :
    Hex.Pairs previous := by
  have hgenesis : Hex.Pairs genesis := Hex.decode?_isSome_iff.1 isDigest_genesis.decode
  cases state with
  | none =>
    cases h
    exact hgenesis
  | some bs =>
    cases htext : Verdict.stateText? bs with
    | none =>
      rw [lastHash_of_no_text htext] at h
      cases h
    | some t =>
      rw [lastHash_of_text htext] at h
      split at h
      · cases h
        exact hgenesis
      · split at h
        · rename_i hhash
          cases h
          exact (isHash_iff.1 hhash).2.toLowerAscii
        · cases h

/-! ### Appending after a head -/

/-- No event is taken over this file with the last hash: it is reported as corrupt, and it stays as
it is, and so does the log. -/
def Refuses (state : Bytes) : Prop :=
  ∀ log locked event, (directory log (some state) locked).append event =
    (.error .corruptState, .directory log (some state) true)

/-- A head with white space in place of digits is taken for what it is in small letters. -/
theorem not_refuses_of_spaced {bs : Bytes} (htext : Verdict.stateText? bs = some t)
    (h : IsSpacedHash t) : ¬ Refuses bs := by
  intro hrefuses
  have hne : t ≠ [] := by
    rintro rfl
    cases h.length
  have hlast : lastHash (some bs) = .ok (t.map CodePoint.toLowerAscii) := by
    rw [lastHash_of_text htext, if_neg hne, if_pos (isHash_iff_plain_or_spaced.2 (.inr h))]
  obtain ⟨written, hash, hline⟩ := line_of_loggable h.pairs.toLowerAscii isLoggable_nil
  have hrefused := hrefuses none true []
  have htaken : (directory none (some bs) true).append [] = _ :=
    append_of_line (directory_ne_blocked _ _ _) hlast hline
  rw [htaken] at hrefused
  cases hrefused

/-- **A corrupt head is refused for every event, unless it is spaced.** A head is what the file with
the last hash holds, blanks around it apart. -/
theorem corrupt_head_refused_iff {bs : Bytes} {head : Text}
    (htext : Verdict.stateText? bs = some head) (filled : head ≠ [])
    (corrupt : ¬ IsPlainHash head) : Refuses bs ↔ ¬ IsSpacedHash head := by
  constructor
  · exact fun hrefuses hspaced => not_refuses_of_spaced htext hspaced hrefuses
  · intro hspaced log locked event
    have hhash : ¬ isHash head = true := fun hhash =>
      (isHash_iff_plain_or_spaced.1 hhash).elim corrupt hspaced
    refine append_of_no_head (directory_ne_blocked _ _ _) ?_ event
    show lastHash (some bs) = _
    rw [lastHash_of_text htext, if_neg filled, if_neg hhash]

/-- A head that is one letter away from a hash. -/
def misspeltHead : Text := List.replicate 63 ('0' : CodePoint) ++ "g"

theorem misspelt_head_is_refused :
    (Verdict.stateText? (Bytes.ofAscii (misspeltHead ++ "\n")) = some misspeltHead ∧
      misspeltHead ≠ [] ∧ ¬ IsPlainHash misspeltHead) ∧
      Refuses (Bytes.ofAscii (misspeltHead ++ "\n")) := by
  have hletter : ('g' : CodePoint) ∈ misspeltHead := by decide
  have htext : Verdict.stateText? (Bytes.ofAscii (misspeltHead ++ "\n")) = some misspeltHead := by
    decide +kernel
  have hplain : ¬ IsPlainHash misspeltHead := by
    intro h
    cases h.2 _ hletter
  have hspaced : ¬ IsSpacedHash misspeltHead := by
    intro h
    rcases h.pairs.mem _ hletter with hdigit | hblank
    · cases hdigit
    · cases hblank
  exact ⟨⟨htext, by decide, hplain⟩,
    (corrupt_head_refused_iff htext (by decide) hplain).2 hspaced⟩

/-- A head of four digits, with white space where a hash has the others. -/
def spacedHead : Text := "00" ++ List.replicate 60 (' ' : CodePoint) ++ "00"

/-- **Four digits with white space between them pass for a hash**, and events are linked to them. -/
theorem spaced_head_is_taken :
    (Verdict.stateText? (Bytes.ofAscii (spacedHead ++ "\n")) = some spacedHead ∧
      spacedHead ≠ [] ∧ ¬ IsPlainHash spacedHead) ∧
      ¬ Refuses (Bytes.ofAscii (spacedHead ++ "\n")) := by
  have hblank : (' ' : CodePoint) ∈ spacedHead := by decide
  have htext : Verdict.stateText? (Bytes.ofAscii (spacedHead ++ "\n")) = some spacedHead := by
    decide +kernel
  have hspaced : IsSpacedHash spacedHead :=
    ⟨by decide, Hex.decode?_isSome_iff.1 (by decide +kernel), ' ', hblank, by decide⟩
  refine ⟨⟨htext, by decide, fun h => ?_⟩, not_refuses_of_spaced htext hspaced⟩
  cases h.2 _ hblank

end Trail

end Audit

end Issuance
