import Issuance.Proofs.Audit.Line
import Issuance.Proofs.Json.Encodable

/-!
# Issuance.Proofs.Audit.Loggable

**Which events can be logged.** An event is loggable if no text in it has a lone surrogate, at
whatever depth; its chain fields do not count, since they are replaced. After a hash that can be read,
a loggable event has a hash and a line of its own (`line_of_loggable`), and any other event has
neither (`line_of_not_loggable`). What the writer puts into the line beyond the event is ASCII, so the
line is encodable as soon as the event was for its hash.
-/

namespace Issuance

namespace Audit

variable {previous : Text} {event : List (Text × Json)}

/-- An event without lone surrogates, its chain fields apart. -/
def IsLoggable (event : List (Text × Json)) : Prop :=
  ∀ t, Json.Mentions t (.obj (unlinked event)) → t.IsScalar

theorem not_isLoggable_iff :
    ¬ IsLoggable event ↔ ∃ t, Json.Mentions t (.obj (unlinked event)) ∧ ¬ t.IsScalar := by
  simp only [IsLoggable, not_forall, exists_prop]

theorem canonicalBytes?_unlinked_eq_none_iff :
    Json.canonicalBytes? (.obj (unlinked event)) = none ↔ ¬ IsLoggable event :=
  Json.canonicalBytes?_eq_none_iff.trans not_isLoggable_iff.symm

theorem isLoggable_nil : IsLoggable [] := by
  intro t ht
  cases ht with
  | key hm => cases hm
  | value hm _ => cases hm

/-! ### The hash of an event -/

theorem chainHash_of_loggable (hp : Hex.Pairs previous) (h : IsLoggable event) :
    ∃ hash, chainHash previous event = .ok hash := by
  obtain ⟨head, hhead⟩ := Option.isSome_iff_exists.1 (Hex.decode?_isSome_iff.2 hp)
  have hbytes : Json.canonicalBytes? (.obj (unlinked event)) ≠ none :=
    fun hnone => canonicalBytes?_unlinked_eq_none_iff.1 hnone h
  obtain ⟨body, hbody⟩ := Option.ne_none_iff_exists'.1 hbytes
  refine ⟨digest (head ++ body), ?_⟩
  unfold chainHash hashInput
  rw [hhead]
  dsimp only
  rw [hbody]
  rfl

theorem chainHash_of_not_loggable (hp : Hex.Pairs previous) (h : ¬ IsLoggable event) :
    chainHash previous event = .error .notEncodable := by
  obtain ⟨head, hhead⟩ := Option.isSome_iff_exists.1 (Hex.decode?_isSome_iff.2 hp)
  unfold chainHash hashInput
  rw [hhead]
  dsimp only
  rw [canonicalBytes?_unlinked_eq_none_iff.2 h]
  rfl

/-! ### The line of an event -/

/-- Pairs of digits are ASCII. -/
theorem isScalar_of_pairs (h : Hex.Pairs previous) : previous.IsScalar := by
  intro c hc
  have hlow : c.value < 0xD800 := by
    rcases h.mem c hc with hc | hc
    · rw [Hex.isSome_hexDigit?_iff] at hc
      omega
    · rw [Hex.isSeparator_iff] at hc
      omega
  simp only [CodePoint.isSurrogate, Bool.and_eq_false_iff, decide_eq_false_iff_not]
  omega

/-- A loggable event is encodable with its chain fields. -/
theorem encodable_linked (hp : Hex.Pairs previous) (h : IsLoggable event) {hash : Text}
    (hhash : Hex.Pairs hash) :
    ∃ body, Json.canonicalBytes? (.obj (linked previous hash event)) = some body := by
  refine Option.ne_none_iff_exists'.1 fun hnone => ?_
  obtain ⟨t, ht, hlone⟩ := Json.canonicalBytes?_eq_none_iff.1 hnone
  rw [linked_eq] at ht
  have hfields : ∀ name ∈ [previousField, hashField], Text.IsScalar name := by
    intro name hname
    simp only [List.mem_cons, List.not_mem_nil, or_false] at hname
    rcases hname with rfl | rfl <;> exact Text.isScalar_of_any (by decide)
  refine hlone ?_
  rcases Json.mentions_append ht with ht | ht
  · exact h t ht
  · cases ht with
    | key hm =>
      simp only [List.mem_cons, List.not_mem_nil, or_false] at hm
      rcases hm with hm | hm <;> cases hm <;> exact hfields _ (by simp)
    | value hm ht =>
      simp only [List.mem_cons, List.not_mem_nil, or_false] at hm
      rcases hm with rfl | rfl <;> cases ht
      · exact isScalar_of_pairs hp
      · exact isScalar_of_pairs hhash

namespace Trail

theorem line_eq_ok {hash : Text} {bs : Bytes}
    (h : line previous event = .ok (bs, hash)) : chainHash previous event = .ok hash ∧
      ∃ body, Utf8.encode? (lineText previous hash event) = some body ∧ bs = body ++ [0x0A] := by
  unfold line at h
  split at h
  · cases h
  · cases h
  · rename_i hchain
    split at h
    · cases h
    · rename_i body hbody
      cases h
      exact ⟨hchain, body, hbody, rfl⟩

/-- **A loggable event has a line** after every hash that can be read. -/
theorem line_of_loggable (hp : Hex.Pairs previous) (h : IsLoggable event) :
    ∃ bs hash, line previous event = .ok (bs, hash) := by
  obtain ⟨hash, hchain⟩ := chainHash_of_loggable hp h
  have hpairs := Hex.decode?_isSome_iff.1 (isDigest_of_chainHash hchain).decode
  obtain ⟨body, hbody⟩ := encodable_linked hp h hpairs
  refine ⟨body ++ [0x0A], hash, ?_⟩
  unfold line
  rw [hchain]
  dsimp only
  rw [hbody]

/-- **No other event has one.** -/
theorem line_of_not_loggable (hp : Hex.Pairs previous) (h : ¬ IsLoggable event) :
    line previous event = .error .eventNotText := by
  unfold line
  rw [chainHash_of_not_loggable hp h]

end Trail

end Audit

end Issuance
