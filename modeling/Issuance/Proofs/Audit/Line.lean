import Issuance.Proofs.Audit.Chain
import Issuance.Proofs.Json.OneLine
import Issuance.Proofs.Json.RoundTrip

/-!
# Issuance.Proofs.Audit.Line

**The line of an event.** The writer hashes an event as it has it, and the verifier hashes the event
as it reads it back from the line. Both are the same, because a line is read as the event it was
written for, up to the order of members, and that order does not count in the canonical text. So the
line is linked to the hash before it and has the event's hash (`links_lineText`).
-/

namespace Issuance

namespace Audit

/-! ### An event and its line -/

/-- The line that is written for an event. -/
def lineText (previous hash : Text) (event : List (Text × Json)) : Text :=
  Json.canonical (.obj (linked previous hash event))

variable {previous hash : Text} {event : List (Text × Json)}

theorem get?_previousField_unlinked (event : List (Text × Json)) :
    Entries.get? previousField (unlinked event) = none := by
  unfold unlinked
  rw [Entries.get?_erase, if_neg (by decide), Entries.get?_erase, if_pos rfl]

theorem get?_hashField_unlinked (event : List (Text × Json)) :
    Entries.get? hashField (unlinked event) = none := by
  unfold unlinked
  rw [Entries.get?_erase, if_pos rfl]

theorem mem_of_mem_unlinked {m : Text × Json} (h : m ∈ unlinked event) : m ∈ event :=
  Entries.mem_of_mem_erase (Entries.mem_of_mem_erase h)

theorem nodup_keys_unlinked (h : (Entries.keys event).Nodup) :
    (Entries.keys (unlinked event)).Nodup :=
  Entries.nodup_keys_erase (Entries.nodup_keys_erase h previousField) hashField

/-- The chain fields come last. -/
theorem linked_eq (previous hash : Text) (event : List (Text × Json)) :
    linked previous hash event =
      unlinked event ++ [(previousField, .str previous), (hashField, .str hash)] := by
  have hlater : Entries.get? hashField
      (Entries.set previousField (.str previous) (unlinked event)) = none := by
    rw [Entries.get?_set, if_neg (by decide), get?_hashField_unlinked]
  unfold linked
  rw [Entries.set_of_get?_none hlater,
    Entries.set_of_get?_none (get?_previousField_unlinked event), List.append_assoc]
  rfl

/-- Unlinking undoes linking. -/
theorem unlinked_linked (previous hash : Text) (event : List (Text × Json)) :
    unlinked (linked previous hash event) = unlinked event := by
  have hevent : unlinked (unlinked event) = unlinked event := by
    have hprevious := Entries.erase_of_get?_none (get?_previousField_unlinked event)
    have hhash := Entries.erase_of_get?_none (get?_hashField_unlinked event)
    rw [unlinked, hprevious, hhash]
  have happend : ∀ es es' : List (Text × Json),
      unlinked (es ++ es') = unlinked es ++ unlinked es' := by
    intro es es'
    unfold unlinked Entries.erase
    rw [List.filter_append, List.filter_append]
  rw [linked_eq, happend, hevent]
  exact List.append_nil _

theorem hasDistinctKeys_unlinked (h : (Json.obj event).HasDistinctKeys) :
    (Json.obj (unlinked event)).HasDistinctKeys :=
  .obj (nodup_keys_unlinked h.members.1) fun m hm => h.members.2 m (mem_of_mem_unlinked hm)

theorem hasDistinctKeys_linked (h : (Json.obj event).HasDistinctKeys) (previous hash : Text) :
    (Json.obj (linked previous hash event)).HasDistinctKeys :=
  ((hasDistinctKeys_unlinked h).set (.str previous) previousField).set (.str hash) hashField

/-- What is hashed for a line is what is hashed for the event that it was written for. -/
theorem canonical_unlinked_of_sorted (h : (Json.obj event).HasDistinctKeys)
    {members : List (Text × Json)}
    (hsorted : Json.sorted (.obj (linked previous hash event)) = .obj members) :
    Json.canonical (.obj (unlinked members)) = Json.canonical (.obj (unlinked event)) := by
  obtain ⟨ms, hms, hperm⟩ := Json.sorted_obj (linked previous hash event)
  rw [hsorted] at hms
  cases hms
  have hunlinked : (unlinked members).Perm ((unlinked event).map Json.sortedMember) := by
    have hmap : unlinked ((linked previous hash event).map Json.sortedMember) =
        (unlinked (linked previous hash event)).map Json.sortedMember := by
      unfold unlinked Entries.erase
      rw [List.filter_map, List.filter_map]
      rfl
    rw [← unlinked_linked previous hash event, ← hmap]
    exact (hperm.filter _).filter _
  have hnodup : (Entries.keys ((unlinked event).map Json.sortedMember)).Nodup := by
    rw [Json.keys_map_sorted]
    exact nodup_keys_unlinked h.members.1
  rw [← Json.canonical_of_perm hnodup hunlinked.symm, Json.canonical_map_sorted]

/-- **The line of an event is linked to the hash before it**, and has the event's hash. -/
theorem links_lineText (h : (Json.obj event).HasDistinctKeys) (hprevious : IsDigest previous)
    (hchain : chainHash previous event = .ok hash) :
    Verdict.Links previous (lineText previous hash event) hash := by
  have hlinked := hasDistinctKeys_linked h previous hash
  obtain ⟨members, hsorted, -⟩ := Json.sorted_obj (linked previous hash event)
  have hread : Json.read? (lineText previous hash event) = some (.obj members) := by
    unfold lineText
    rw [Json.read?_canonical hlinked, hsorted]
  -- the chain fields are texts, which sorting leaves as they are
  have hclaimed : ∀ {key t}, Entries.get? key (linked previous hash event) = some (.str t) →
      IsDigest t → Verdict.claimedHash? members key = some t := by
    intro key t hget ht
    unfold Verdict.claimedHash?
    rw [Json.field?_of_sorted hlinked hsorted, Json.field?, hget]
    exact if_pos ht.isHash
  refine ⟨members, hread, hclaimed ?_ hprevious, hclaimed ?_ (isDigest_of_chainHash hchain), ?_⟩
  · unfold linked
    rw [Entries.get?_set, if_neg (by decide), Entries.get?_set_self]
  · unfold linked
    rw [Entries.get?_set_self]
  · rw [← hchain]
    unfold chainHash hashInput Json.canonicalBytes?
    rw [canonical_unlinked_of_sorted h hsorted]

/-- A line has something on it that is not blank, at either end, and no break. -/
theorem trim_lineText (previous hash : Text) (event : List (Text × Json)) :
    (lineText previous hash event).trim = lineText previous hash event ∧
      lineText previous hash event ≠ [] := by
  unfold lineText Json.canonical
  rw [Json.write]
  exact ⟨Text.trim_of_ends (by decide) (by decide) _, List.cons_ne_nil _ _⟩

theorem no_control_lineText (previous hash : Text) (event : List (Text × Json)) :
    ∀ c ∈ lineText previous hash event, 0x20 ≤ c.value :=
  fun _ hc => Json.no_control_write hc

end Audit

end Issuance
