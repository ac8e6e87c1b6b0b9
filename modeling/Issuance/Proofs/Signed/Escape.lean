import Issuance.Proofs.Key.Fit
import Issuance.Proofs.Service.Journey
import Issuance.Proofs.Signed.Refusal

/-!
# Issuance.Proofs.Signed.Escape

**What escapes a verification.** Whatever is wrong with a token is reported, and so is most of what
is wrong with a key. There are two gaps, one where the registered material is loaded and one where
the algorithm takes the key: a key of a kind that nothing provides for, be it not supported or not
the algorithm's, ends the verification without a report. These are all ways in which it can end so
(`reported_iff`), and none depends on the claims of the token, on the time, or on what is expected.
-/

namespace Issuance

namespace SignedToken

/-- The verification of a token ends in something that no rule provides for. -/
inductive Escapes (p : Policy) (token : Text) : Prop
  /-- The registered material asks for it, whatever the token. -/
  | material (unsupported : VerificationKey.IsUnsupported p.material p.algorithm)
  /-- The registered key is of a kind for which the registered algorithm has no rule. -/
  | foreign {key : VerificationKey} {a : SigningAlgorithm} (reaches : Reaches p token key a)
    (foreign : a.scheme.hasRuleFor key = false)
  /-- The registered key is a secret that the registered algorithm cannot read as a key. -/
  | misread {bs : Bytes} {a : SigningAlgorithm} (reaches : Reaches p token (.secret bs) a)
    (misread : a.scheme.IsMisread bs)

/-! ### The faults without a report -/

/-- Every fault is reported but for three. -/
theorem Fault.isReported_iff {f : Fault} : f.IsReported ↔
    f ≠ .unprovided ∧ f ≠ .material .unsupported ∧ f ≠ .key .unprovided := by
  constructor
  · rintro ⟨report, hreport, -⟩
    refine ⟨?_, ?_, ?_⟩ <;>
    · rintro rfl
      cases hreport
  · rintro ⟨hunprovided, hmaterial, hkey⟩
    cases f with
    | unprovided => exact absurd rfl hunprovided
    | material fault =>
      cases fault with
      | unsupported => exact absurd rfl hmaterial
      | _ => exact ⟨_, rfl, rfl⟩
    | key mismatch =>
      cases mismatch with
      | unprovided => exact absurd rfl hkey
      | _ => exact ⟨_, rfl, rfl⟩
    | _ => exact ⟨_, rfl, rfl⟩

theorem reported_policyKey_iff {p : Policy} : FailsOnly Fault.IsReported (policyKey p) ↔
    ¬ VerificationKey.IsUnsupported p.material p.algorithm := by
  rw [← VerificationKey.ofMaterial_eq_unsupported_iff]
  unfold policyKey
  cases VerificationKey.ofMaterial p.material p.algorithm with
  | ok key => simp [FailsOnly.ok]
  | error f => simp [FailsOnly.error_iff, Fault.isReported_iff]

theorem reported_fittingKey_iff {a : SigningAlgorithm} {key : VerificationKey} :
    FailsOnly Fault.IsReported (fittingKey a key) ↔
      ¬ (a.scheme.hasRuleFor key = false ∨ ∃ bs, key = .secret bs ∧ a.scheme.IsMisread bs) := by
  rw [← SigningAlgorithm.fit_eq_unprovided_iff]
  unfold fittingKey
  cases a.fit key with
  | ok fitting => simp [FailsOnly.ok]
  | error mismatch => simp [FailsOnly.error_iff, Fault.isReported_iff]

/-- **A verification that fails is reported unless its key escapes.** Of a token without lone
surrogates, the verification ends with its claims or in a report, whatever the time, except where
the registered material asks for a key that nothing provides for, or gives one to which the
registered algorithm has no answer. -/
theorem reported_iff {p : Policy} {token : Text}
    (encodable : token.any CodePoint.isSurrogate = false) (now : Int) :
    FailsOnly Fault.IsReported (verify now p token) ↔ p.required = [] ∨ ¬ Escapes p token := by
  rw [reported_verify_iff encodable, reported_policyKey_iff]
  simp only [reported_fittingKey_iff]
  refine or_congr_right ?_
  constructor
  · rintro ⟨hmaterial, hkey⟩ hescapes
    cases hescapes with
    | material unsupported => exact hmaterial unsupported
    | foreign reaches foreign => exact hkey _ _ reaches (Or.inl foreign)
    | misread reaches misread => exact hkey _ _ reaches (Or.inr ⟨_, rfl, misread⟩)
  · intro h
    refine ⟨fun unsupported => h (.material unsupported), fun key a reaches => ?_⟩
    rintro (foreign | ⟨bs, rfl, misread⟩)
    · exact h (.foreign reaches foreign)
    · exact h (.misread reaches misread)

end SignedToken

namespace Issuer

namespace OneClient

open SignedToken

theorem encodable_signed (payload : Bytes) :
    (signed payload).any CodePoint.isSurrogate = false :=
  SignedToken.encodable_compact _ _ _

/-- What the client asserts about itself is in order for some time, and once it is not, that is
reported. -/
theorem late_assertion_is_reported :
    (signed assertionPayload).any CodePoint.isSurrogate = false ∧
      FailsOnly Fault.IsReported
        (verify 50 (TokenRequest.assertionPolicy client "c") (signed assertionPayload)) := by
  have hencodable := encodable_signed assertionPayload
  have haccepted : FailsOnly Fault.IsReported
      (verify 5 (TokenRequest.assertionPolicy client "c") (signed assertionPayload)) := by
    rw [verify_assertion]
    exact .ok _
  exact ⟨hencodable, (reported_iff hencodable 50).2 ((reported_iff hencodable 5).1 haccepted)⟩

/-- A policy with a JSON Web Key for a keyed hash that holds no secret: an object with the member
"kty", which is "oct". -/
def secretlessPolicy : Policy := ⟨"HS256", "eyJrdHkiOiJvY3QifQ==", ["sub"], none, none, none⟩

/-- A policy for signatures on a curve with a JSON Web Key that is for a keyed hash: its members are
"kty", which is "oct", "k" and "alg". -/
def mixedPolicy : Policy :=
  ⟨"ES256", "eyJrdHkiOiJvY3QiLCJrIjoiQVEiLCJhbGciOiJIUzI1NiJ9", ["sub"], none, none, none⟩

/-- A token that names the algorithm of the mixed policy, and has nothing but a header. -/
def mixedToken : Text := "eyJhbGciOiJFUzI1NiJ9.."

/-- **A key without its secret is not reported, nor is one of another kind.** The first ends the
verification when it is loaded, the second when the algorithm takes it for a key in writing. -/
theorem foreign_keys_are_not_reported :
    (signed assertionPayload).any CodePoint.isSurrogate = false ∧
      ¬ FailsOnly Fault.IsReported (verify 5 secretlessPolicy (signed assertionPayload)) ∧
    mixedToken.any CodePoint.isSurrogate = false ∧
      ¬ FailsOnly Fault.IsReported (verify 5 mixedPolicy mixedToken) := by
  refine ⟨encodable_signed _, fun h => ?_, by decide, fun h => ?_⟩
  · have hkey : policyKey secretlessPolicy = .error (.material .unsupported) := by
      decide +kernel
    have hverify : verify 5 secretlessPolicy (signed assertionPayload) =
        .error (.material .unsupported) := by
      unfold verify
      rw [hkey]
      rfl
    exact (Fault.isReported_iff.1 (h _ hverify)).2.1 rfl
  · have hverify : verify 5 mixedPolicy mixedToken = .error (.key .unprovided) := by
      decide +kernel
    exact (Fault.isReported_iff.1 (h _ hverify)).2.2 rfl

end OneClient

end Issuer

end Issuance
