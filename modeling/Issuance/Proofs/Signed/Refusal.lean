import Issuance.Proofs.Signed.Verifier

/-!
# Issuance.Proofs.Signed.Refusal

**How a verification fails.** Of all the faults of a token only three have no report: a registered
key of a kind that is not supported, a key that does not go with its algorithm, and a token that no
encoding could have carried. That a check fails with none of these is shown for each of them by
itself, and carried over to the chain of all (`FailsOnly.bind`).

So a token without lone surrogates fails with a report unless something is wrong with the registered
key (`reported_verify_iff`), and always if that can be used at all (`reported_verify`).
-/

namespace Issuance

namespace SignedToken

/-- A fault that is reported as one of the token. -/
def Fault.IsReported (f : Fault) : Prop :=
  ∃ report, f.failure = .fault report ∧ report.kind = .tokenVerification

theorem reported_require {f : Fault} (h : f.IsReported) (condition : Bool) :
    FailsOnly Fault.IsReported (require condition f) := by
  cases condition with
  | true => exact .ok ()
  | false => exact .error h

/-! ### Taking a token apart -/

theorem reported_headerMembers (t : Text) : FailsOnly Fault.IsReported (headerMembers t) := by
  unfold headerMembers
  split
  · exact .error ⟨_, rfl, rfl⟩
  · split
    · exact .error ⟨_, rfl, rfl⟩
    · exact .ok _
    · exact .error ⟨_, rfl, rfl⟩

theorem reported_segment {f : Fault} (h : f.IsReported) (t : Text) :
    FailsOnly Fault.IsReported (segment f t) := by
  unfold segment
  split
  · exact .ok _
  · exact .error h

theorem reported_parse {token : Text} (h : token.any CodePoint.isSurrogate = false) :
    FailsOnly Fault.IsReported (parse token) := by
  unfold parse
  rw [h, if_neg Bool.false_ne_true]
  split
  · exact .error ⟨_, rfl, rfl⟩
  · refine (reported_headerMembers _).bind fun members _ => ?_
    split
    · exact .error ⟨_, rfl, rfl⟩
    · refine (reported_segment ⟨_, rfl, rfl⟩ _).bind fun payload _ => ?_
      exact (reported_segment ⟨_, rfl, rfl⟩ _).bind fun signature _ => .ok _

/-! ### Header, key and signature -/

theorem reported_checkExtensions (t : SignedToken) (names : List Json) :
    FailsOnly Fault.IsReported (checkExtensions t names) := by
  fun_induction checkExtensions t names with
  | case1 => exact .ok ()
  | case2 | case3 | case5 => exact .error ⟨_, rfl, rfl⟩
  | case4 _ _ _ _ ih => exact ih

theorem reported_checkCritical (t : SignedToken) :
    FailsOnly Fault.IsReported (checkCritical t) := by
  unfold checkCritical
  split
  · exact .ok ()
  · exact reported_checkExtensions t _
  · exact .error ⟨_, rfl, rfl⟩

theorem reported_checkHeader (t : SignedToken) : FailsOnly Fault.IsReported (checkHeader t) := by
  have hrest : FailsOnly Fault.IsReported (do
      checkCritical t
      if isDetached t.header then
        SignedToken.require t.listsDetached .detachedNotCritical
        .error .detachedMissing) := by
    refine (reported_checkCritical t).bind fun _ _ => ?_
    split
    · exact (reported_require ⟨_, rfl, rfl⟩ _).bind fun _ _ => .error ⟨_, rfl, rfl⟩
    · exact .ok ()
  unfold checkHeader
  cases t.parameter? "kid" with
  | none => exact hrest
  | some id =>
    cases id with
    | str _ => exact hrest
    | null | bool | int | float | arr | obj => exact .error ⟨_, rfl, rfl⟩

theorem reported_algorithm (p : Policy) (t : SignedToken) :
    FailsOnly Fault.IsReported (algorithm p t) := by
  unfold algorithm
  split
  · exact .error ⟨_, rfl, rfl⟩
  · split
    · exact .error ⟨_, rfl, rfl⟩
    · split
      · exact .error ⟨_, rfl, rfl⟩
      · exact .ok _

/-- The algorithm of a token is the policy's. -/
theorem find?_of_algorithm {p : Policy} {t : SignedToken} {a : SigningAlgorithm}
    (h : algorithm p t = .ok a) : SigningAlgorithm.find? p.algorithm = some a := by
  unfold algorithm at h
  split at h
  · cases h
  · split at h
    · cases h
    · split at h
      · cases h
      · rename_i hfound
        rw [hfound, Except.ok.inj h]

/-- The check of a signature is reported where its algorithm has an answer to the key. -/
theorem reported_checkSignature_iff {p : Policy} {key : VerificationKey} {t : SignedToken} :
    FailsOnly Fault.IsReported (checkSignature p key t) ↔
      ∀ a, algorithm p t = .ok a → FailsOnly Fault.IsReported (fittingKey a key) := by
  unfold checkSignature
  rw [FailsOnly.bind_iff]
  constructor
  · rintro ⟨-, h⟩ a ha
    exact (FailsOnly.bind_iff.1 (h a ha)).1
  · intro h
    refine ⟨reported_algorithm p t, fun a ha => (h a ha).bind fun fitting _ => ?_⟩
    exact reported_require ⟨_, rfl, rfl⟩ _

/-! ### Claims -/

theorem reported_claims (t : SignedToken) : FailsOnly Fault.IsReported (claims t) := by
  unfold claims
  split
  · exact .error ⟨_, rfl, rfl⟩
  · exact .ok _
  · exact .error ⟨_, rfl, rfl⟩

theorem reported_checkPresent (claims : ClaimSet) (names : List Text) :
    FailsOnly Fault.IsReported (checkPresent claims names) := by
  fun_induction checkPresent claims names with
  | case1 => exact .ok ()
  | case2 => exact .error ⟨_, rfl, rfl⟩
  | case3 _ _ _ ih => exact ih

theorem reported_checkIssuer (claims : ClaimSet) (expected : Option Text) :
    FailsOnly Fault.IsReported (checkIssuer claims expected) := by
  unfold checkIssuer
  split
  · exact .ok ()
  · split
    · exact .error ⟨_, rfl, rfl⟩
    · exact reported_require ⟨_, rfl, rfl⟩ _
    · exact .error ⟨_, rfl, rfl⟩

theorem reported_checkAudience (claims : ClaimSet) (expected : Option Text) :
    FailsOnly Fault.IsReported (checkAudience claims expected) := by
  unfold checkAudience
  split
  · exact .ok ()
  · dsimp only
    split
    · exact .error ⟨_, rfl, rfl⟩
    · split
      · exact reported_require ⟨_, rfl, rfl⟩ _
      · exact (reported_require ⟨_, rfl, rfl⟩ _).bind fun _ _ => reported_require ⟨_, rfl, rfl⟩ _
      · exact .error ⟨_, rfl, rfl⟩

theorem reported_checkText {f : Fault} (h : f.IsReported) (claims : ClaimSet) (name : Text) :
    FailsOnly Fault.IsReported (checkText claims name f) := by
  unfold checkText
  split
  · exact .ok ()
  · exact .ok ()
  · exact .error h

theorem reported_checkFilled (claims : ClaimSet) (names : List Text) :
    FailsOnly Fault.IsReported (checkFilled claims names) := by
  fun_induction checkFilled claims names with
  | case1 => exact .ok ()
  | case2 => exact .error ⟨_, rfl, rfl⟩
  | case3 _ _ _ ih => exact ih

theorem reported_checkNumber (claims : ClaimSet) (name : Text) :
    FailsOnly Fault.IsReported (checkNumber claims name) := by
  unfold checkNumber
  split
  · exact .ok ()
  · exact reported_require ⟨_, rfl, rfl⟩ _

theorem reported_checkTime {f : Fault} (h : f.IsReported) (claims : ClaimSet) (name : Text)
    (excluded : Json → Bool) : FailsOnly Fault.IsReported (checkTime claims name excluded f) := by
  unfold checkTime
  split
  · exact .ok ()
  · exact reported_require h _

theorem reported_checkWindow (now : Int) (claims : ClaimSet) :
    FailsOnly Fault.IsReported (checkWindow now claims) := by
  refine (reported_checkNumber claims _).bind fun _ _ => ?_
  refine (reported_checkNumber claims _).bind fun _ _ => ?_
  refine (reported_checkNumber claims _).bind fun _ _ => ?_
  refine (reported_checkTime ⟨_, rfl, rfl⟩ claims _ _).bind fun _ _ => ?_
  refine (reported_checkTime ⟨_, rfl, rfl⟩ claims _ _).bind fun _ _ => ?_
  exact reported_checkTime ⟨_, rfl, rfl⟩ claims _ _

theorem reported_checkSubject (claims : ClaimSet) (expected : Option Text) :
    FailsOnly Fault.IsReported (checkSubject claims expected) := by
  cases expected with
  | none => exact .ok ()
  | some expected => exact reported_require ⟨_, rfl, rfl⟩ _

theorem reported_checkClaims (now : Int) (p : Policy) (claims : ClaimSet) :
    FailsOnly Fault.IsReported (checkClaims now p claims) := by
  refine (reported_checkPresent claims _).bind fun _ _ => ?_
  refine (reported_checkIssuer claims _).bind fun _ _ => ?_
  refine (reported_checkAudience claims _).bind fun _ _ => ?_
  refine (reported_checkText ⟨_, rfl, rfl⟩ claims _).bind fun _ _ => ?_
  refine (reported_checkText ⟨_, rfl, rfl⟩ claims _).bind fun _ _ => ?_
  refine (reported_checkFilled claims _).bind fun _ _ => ?_
  refine (reported_checkWindow now claims).bind fun _ _ => ?_
  exact reported_checkSubject claims _

/-! ### The whole verification -/

/-- A token gets as far as its signature, which is to be verified with this algorithm and the
registered key. -/
structure Reaches (p : Policy) (token : Text) (key : VerificationKey) (a : SigningAlgorithm) :
    Prop where
  loads : VerificationKey.ofMaterial p.material p.algorithm = .ok key
  inOrder : ∃ t, parse token = .ok t ∧ checkHeader t = .ok () ∧ algorithm p t = .ok a

theorem policyKey_eq_ok {p : Policy} {key : VerificationKey} :
    policyKey p = .ok key ↔ VerificationKey.ofMaterial p.material p.algorithm = .ok key := by
  unfold policyKey
  cases VerificationKey.ofMaterial p.material p.algorithm <;> simp

/-- A verification is reported but for two stages: the loading of the registered key, and the
algorithm's taking of it. -/
theorem reported_verify_iff {p : Policy} {token : Text}
    (encodable : token.any CodePoint.isSurrogate = false) (now : Int) :
    FailsOnly Fault.IsReported (verify now p token) ↔
      p.required = [] ∨ FailsOnly Fault.IsReported (policyKey p) ∧
        ∀ key a, Reaches p token key a → FailsOnly Fault.IsReported (fittingKey a key) := by
  unfold verify
  by_cases hrequired : p.required = []
  · rw [hrequired]
    exact iff_of_true (.error ⟨_, rfl, rfl⟩) (Or.inl rfl)
  · have hsome : require (!p.required.isEmpty) .noRequirements = .ok () :=
      require_eq_ok.2 (by simpa using hrequired)
    rw [or_iff_right hrequired, hsome]
    show FailsOnly Fault.IsReported (policyKey p >>= _) ↔ _
    rw [FailsOnly.bind_iff]
    refine and_congr_right fun _ => ?_
    constructor
    · rintro h key a ⟨hloads, t, hparse, hheader, ha⟩
      have hparsed := (FailsOnly.bind_iff.1 (h key (policyKey_eq_ok.2 hloads))).2 t hparse
      have hsigned := (FailsOnly.bind_iff.1 hparsed).2 () hheader
      exact reported_checkSignature_iff.1 (FailsOnly.bind_iff.1 hsigned).1 a ha
    · intro h key hkey
      refine (reported_parse encodable).bind fun t hparse => ?_
      refine (reported_checkHeader t).bind fun _ hheader => ?_
      refine FailsOnly.bind (reported_checkSignature_iff.2 fun a ha => ?_) fun _ _ => ?_
      · exact h key a ⟨policyKey_eq_ok.1 hkey, t, hparse, hheader, ha⟩
      · refine (reported_claims t).bind fun claims _ => ?_
        exact (reported_checkClaims now p claims).bind fun _ _ => .ok claims

/-- **A token that is not accepted is reported**, if it has no lone surrogates and the policy's
algorithm takes the policy's key. -/
theorem reported_verify {p : Policy} {key fitting : VerificationKey} {a : SigningAlgorithm}
    (loads : VerificationKey.ofMaterial p.material p.algorithm = .ok key)
    (found : SigningAlgorithm.find? p.algorithm = some a) (fits : a.fit key = .ok fitting)
    {token : Text} (encodable : token.any CodePoint.isSurrogate = false) (now : Int) :
    FailsOnly Fault.IsReported (verify now p token) := by
  refine (reported_verify_iff encodable now).2 (Or.inr ⟨?_, fun used named reaches => ?_⟩)
  · rw [policyKey_eq_ok.2 loads]
    exact .ok key
  · obtain ⟨hloads, t, -, -, halgorithm⟩ := reaches
    cases loads.symm.trans hloads
    cases found.symm.trans (find?_of_algorithm halgorithm)
    unfold fittingKey
    rw [fits]
    exact .ok fitting

end SignedToken

end Issuance
