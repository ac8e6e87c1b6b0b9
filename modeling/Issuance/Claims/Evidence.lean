import Issuance.Json.Value

/-!
# Issuance.Claims.Evidence

An **evidence request** names the scores that a client asks for. It is taken over as it comes:
the known fields are copied, whatever their values, and all else is ignored.
-/

namespace Issuance

/-- The evidence that a client asks for: known fields with values that are not `null`. -/
structure EvidenceRequest where
  scores : List (Text × Json)
  deriving DecidableEq

namespace EvidenceRequest

/-- The fields that an evidence request may have. -/
def fields : List Text :=
  ["scoringPolicy", "strengthScore", "validityScore", "verificationScore",
    "activityHistoryScore", "identityFraudScore"]

/-- The score in an object under a name, if there is one that is not `null`. -/
def score? (members : List (Text × Json)) (name : Text) : Option (Text × Json) :=
  match Entries.get? name members with
  | none | some .null => none
  | some v => some (name, v)

theorem score?_eq_some_iff {members : List (Text × Json)} {name : Text} {score : Text × Json} :
    score? members name = some score ↔
      score.1 = name ∧ Entries.get? name members = some score.2 ∧ score.2 ≠ .null := by
  unfold score?
  rcases score with ⟨f, w⟩
  cases Entries.get? name members with
  | none => simp
  | some v =>
    cases v <;> simp <;> grind

/-- The evidence request in a claim; there is none unless the claim is an object. -/
def ofClaim? : Json → Option EvidenceRequest
  | .obj members => some ⟨fields.filterMap (score? members)⟩
  | _ => none

/-- What is taken over of a claim: it is an object, and the scores are its known fields that are
not `null`, with their values, in the order in which the fields are known. -/
theorem scores_of_ofClaim? {claim : Json} {e : EvidenceRequest} (h : ofClaim? claim = some e) :
    ∃ members, claim = .obj members ∧ (Entries.keys e.scores).Sublist fields ∧
      ∀ name v, (name, v) ∈ e.scores ↔
        name ∈ fields ∧ Entries.get? name members = some v ∧ v ≠ .null := by
  cases claim with
  | obj members =>
    cases h
    refine ⟨members, rfl, Entries.sublist_keys_filterMap ?_ fields, fun name v => ?_⟩
    · exact fun name score hscore => (score?_eq_some_iff.1 hscore).1
    · simp only [List.mem_filterMap, score?_eq_some_iff]
      constructor
      · rintro ⟨_, hknown, rfl, hget, hne⟩
        exact ⟨hknown, hget, hne⟩
      · rintro ⟨hknown, hget, hne⟩
        exact ⟨name, hknown, rfl, hget, hne⟩
  | _ => cases h

/-- The request as an object. -/
def json (e : EvidenceRequest) : Json := .obj e.scores

end EvidenceRequest

end Issuance
