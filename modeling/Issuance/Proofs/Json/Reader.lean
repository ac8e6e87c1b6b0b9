import Issuance.Json.Encoded
import Issuance.Proofs.Json.Sorted

/-!
# Issuance.Proofs.Json.Reader

**What is read has distinct keys**, at every depth: a member whose key was read before takes the
place of the earlier one. So every value that comes from outside can be written and read back
without any of it being lost (`hasDistinctKeys_of_read`, `hasDistinctKeys_of_ofBytes`).
-/

namespace Issuance

namespace Json

theorem hasDistinctKeys_magnitude {negative : Bool} {t rest : Text} {v : Json}
    (h : magnitude? negative t = some (v, rest)) : v.HasDistinctKeys := by
  unfold magnitude? at h
  split at h
  · cases h
  · dsimp only at h
    split at h
    · cases h
      exact .int _
    · cases h
      exact .float _

/-- A word or a numeral has no members. -/
theorem hasDistinctKeys_scalar {t rest : Text} {v : Json} (h : scalar? t = some (v, rest)) :
    v.HasDistinctKeys := by
  have hwords : ∀ w ∈ wordValues, w.2.HasDistinctKeys := by
    refine List.forall_mem_cons.2 ⟨.null, List.forall_mem_cons.2 ⟨.bool true, ?_⟩⟩
    refine List.forall_mem_cons.2 ⟨.bool false, List.forall_mem_cons.2 ⟨.float _, ?_⟩⟩
    exact List.forall_mem_cons.2 ⟨.float _, List.forall_mem_singleton.2 (.float _)⟩
  unfold scalar? at h
  split at h
  · rename_i r hword
    cases h
    obtain ⟨w, hw, hfound⟩ := List.exists_of_findSome?_eq_some hword
    obtain ⟨_, -, heq⟩ := Option.map_eq_some_iff.1 hfound
    obtain rfl : w.2 = v := congrArg Prod.fst heq
    exact hwords w hw
  · split at h
    · split at h
      · exact hasDistinctKeys_magnitude h
      · exact hasDistinctKeys_magnitude h
    · cases h

/-- What the three readers give within a bound on their calls has distinct keys; the members of an
object, as long as those before them have. -/
structure ReadDistinctly (fuel : Nat) : Prop where
  value : ∀ t v rest, value? fuel t = some (v, rest) → v.HasDistinctKeys
  items : ∀ t vs rest, items? fuel t = some (vs, rest) → ∀ v ∈ vs, v.HasDistinctKeys
  members : ∀ done t ms rest, HasDistinctKeys (.obj done) →
    members? fuel done t = some (ms, rest) → HasDistinctKeys (.obj ms)

namespace ReadDistinctly

variable {fuel : Nat}

theorem value_succ (h : ReadDistinctly fuel) {t rest : Text} {v : Json}
    (hread : value? (fuel + 1) t = some (v, rest)) : v.HasDistinctKeys := by
  cases t with
  | nil => cases hread
  | cons c t =>
    rw [value?] at hread
    split at hread
    · obtain ⟨⟨s, r⟩, -, heq⟩ := Option.map_eq_some_iff.1 hread
      cases heq
      exact .str s
    split at hread
    · split at hread
      · cases hread
      split at hread
      · cases hread
        exact .arr (List.forall_mem_nil _)
      · obtain ⟨⟨vs, r⟩, hvs, heq⟩ := Option.map_eq_some_iff.1 hread
        cases heq
        exact .arr (h.items _ _ _ hvs)
    split at hread
    · split at hread
      · cases hread
      split at hread
      · cases hread
        exact hasDistinctKeys_nil
      · obtain ⟨⟨ms, r⟩, hms, heq⟩ := Option.map_eq_some_iff.1 hread
        cases heq
        exact h.members _ _ _ _ hasDistinctKeys_nil hms
    · exact hasDistinctKeys_scalar hread

theorem items_succ (h : ReadDistinctly fuel) {t rest : Text} {vs : List Json}
    (hread : items? (fuel + 1) t = some (vs, rest)) : ∀ v ∈ vs, v.HasDistinctKeys := by
  rw [items?] at hread
  split at hread
  · cases hread
  rename_i v r hv
  split at hread
  · cases hread
  split at hread
  · cases hread
    exact List.forall_mem_singleton.2 (h.value _ _ _ hv)
  split at hread
  · obtain ⟨⟨vs', r'⟩, hvs, heq⟩ := Option.map_eq_some_iff.1 hread
    cases heq
    exact List.forall_mem_cons.2 ⟨h.value _ _ _ hv, h.items _ _ _ hvs⟩
  · cases hread

theorem members_succ (h : ReadDistinctly fuel) {done ms : List (Text × Json)} {t rest : Text}
    (hdone : HasDistinctKeys (.obj done))
    (hread : members? (fuel + 1) done t = some (ms, rest)) : HasDistinctKeys (.obj ms) := by
  cases t with
  | nil => cases hread
  | cons q t =>
    rw [members?] at hread
    split at hread
    · cases hread
    split at hread
    · cases hread
    split at hread
    · cases hread
    split at hread
    · cases hread
    split at hread
    · cases hread
    rename_i v r hv
    split at hread
    · cases hread
    split at hread
    · cases hread
      exact hdone.set (h.value _ _ _ hv) _
    split at hread
    · exact h.members _ _ _ _ (hdone.set (h.value _ _ _ hv) _) hread
    · cases hread

end ReadDistinctly

theorem readDistinctly (fuel : Nat) : ReadDistinctly fuel := by
  induction fuel with
  | zero =>
    refine ⟨fun _ _ _ h => ?_, fun _ _ _ h => ?_, fun _ _ _ _ _ h => ?_⟩
    · cases h
    · cases h
    · cases h
  | succ fuel ih =>
    exact ⟨fun _ _ _ => ih.value_succ, fun _ _ _ => ih.items_succ,
      fun _ _ _ _ => ih.members_succ⟩

/-- **What is read has distinct keys.** -/
theorem hasDistinctKeys_of_read {t : Text} {v : Json} (h : read? t = some v) :
    v.HasDistinctKeys := by
  unfold read? at h
  split at h
  · rename_i v' rest hvalue
    split at h
    · cases h
      exact (readDistinctly _).value _ _ _ hvalue
    · cases h
  · cases h

theorem hasDistinctKeys_of_ofBytes {bs : Bytes} {v : Json} (h : ofBytes bs = .ok v) :
    v.HasDistinctKeys := by
  unfold ofBytes at h
  split at h
  · cases h
  split at h
  · cases h
  · rename_i hread
    cases h
    exact hasDistinctKeys_of_read hread

end Json

end Issuance
