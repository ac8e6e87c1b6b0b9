import Issuance.Signed.Verifier

/-!
# Issuance.Proofs.Signed.Verifier

What a verified token has been shown to be. `verify` is a chain of checks, each of which can only
go on or fail; `verify_eq_ok` and `checkClaims_eq_ok` say what it means that all of them went on.
The facts about single claims are read off these two, never off the chain.
-/

namespace Issuance

/-- A chain went through where its first part and its rest did. -/
theorem bind_eq_ok {ε α β : Type} {x : Except ε α} {f : α → Except ε β} {b : β} :
    (x >>= f) = .ok b ↔ ∃ a, x = .ok a ∧ f a = .ok b := by
  cases x with
  | error e =>
    constructor
    · intro h
      cases h
    · rintro ⟨a, h, -⟩
      cases h
  | ok a =>
    constructor
    · intro h
      exact ⟨a, rfl, h⟩
    · rintro ⟨a', h, hf⟩
      cases h
      exact hf

theorem eq_ok_of_toOption {ε α : Type} {x : Except ε α} {a : α} (h : x.toOption = some a) :
    x = .ok a := by
  cases x with
  | error e => cases h
  | ok b => exact congrArg Except.ok (Option.some.inj h)

/-- A computation that may fail in some ways only. -/
def FailsOnly {ε α : Type} (way : ε → Prop) (x : Except ε α) : Prop := ∀ f, x = .error f → way f

namespace FailsOnly

variable {ε α β : Type} {way : ε → Prop}

theorem ok (a : α) : FailsOnly way (.ok a) := fun _ h => nomatch h

theorem error {f : ε} (h : way f) : FailsOnly way (.error f : Except ε α) :=
  fun _ hf => Except.error.inj hf ▸ h

/-- A chain fails only in the ways in which its parts do. -/
theorem bind {x : Except ε α} {g : α → Except ε β} (hx : FailsOnly way x)
    (hg : ∀ a, x = .ok a → FailsOnly way (g a)) : FailsOnly way (x >>= g) := by
  cases x with
  | error f => exact error (hx f rfl)
  | ok a => exact hg a rfl

theorem error_iff {f : ε} : FailsOnly way (.error f : Except ε α) ↔ way f :=
  ⟨fun h => h f rfl, error⟩

/-- A chain fails only in some ways where its first part does and, after it, the rest. -/
theorem bind_iff {x : Except ε α} {g : α → Except ε β} :
    FailsOnly way (x >>= g) ↔ FailsOnly way x ∧ ∀ a, x = .ok a → FailsOnly way (g a) := by
  refine ⟨fun h => ?_, fun ⟨hx, hg⟩ => hx.bind hg⟩
  cases x with
  | error f => exact ⟨error (h f rfl), fun _ ha => nomatch ha⟩
  | ok a => exact ⟨ok a, fun a' ha => Except.ok.inj ha ▸ h⟩

/-- If a chain fails in another way, its first part does not. -/
theorem bind_eq_error {x : Except ε α} (hx : FailsOnly way x) {f : ε} (hf : ¬ way f)
    (g : α → Except ε β) : x >>= g = .error f ↔ ∃ a, x = .ok a ∧ g a = .error f := by
  cases x with
  | error f' =>
    refine iff_of_false (fun h => hf (hx f ?_)) (by simp)
    exact congrArg Except.error (Except.error.inj h)
  | ok a => exact ⟨fun h => ⟨a, rfl, h⟩, fun ⟨a', ha, h⟩ => Except.ok.inj ha ▸ h⟩

end FailsOnly

namespace SignedToken

theorem require_eq_ok {condition : Bool} {fault : Fault} {u : Unit} :
    require condition fault = .ok u ↔ condition = true := by
  cases condition <;> simp [require]

/-- A token is accepted where every stage of its verification is passed. -/
theorem verify_eq_ok {now : Int} {p : Policy} {token : Text} {claims : ClaimSet} :
    verify now p token = .ok claims ↔
      p.required ≠ [] ∧ ∃ key t, policyKey p = .ok key ∧ parse token = .ok t ∧
        checkHeader t = .ok () ∧ checkSignature p key t = .ok () ∧
        SignedToken.claims t = .ok claims ∧ checkClaims now p claims = .ok () := by
  unfold verify
  simp only [bind_eq_ok, require_eq_ok, Except.ok.injEq]
  constructor
  · rintro ⟨_, hrequired, key, hkey, t, hparse, _, hheader, _, hsignature, found, hclaims, _,
      hcheck, rfl⟩
    exact ⟨by simpa using hrequired, key, t, hkey, hparse, hheader, hsignature, hclaims, hcheck⟩
  · rintro ⟨hrequired, key, t, hkey, hparse, hheader, hsignature, hclaims, hcheck⟩
    exact ⟨(), by simpa using hrequired, key, hkey, t, hparse, (), hheader, (), hsignature, claims,
      hclaims, (), hcheck, rfl⟩

/-- A token is signed under a policy, and these are its claims. -/
def IsSigned (p : Policy) (token : Text) (claims : ClaimSet) : Prop :=
  ∃ key t, policyKey p = .ok key ∧ parse token = .ok t ∧ checkHeader t = .ok () ∧
    checkSignature p key t = .ok () ∧ SignedToken.claims t = .ok claims

/-- The claims of a token are its own. -/
theorem IsSigned.unique {p : Policy} {token : Text} {claims claims' : ClaimSet}
    (h : IsSigned p token claims) (h' : IsSigned p token claims') : claims = claims' := by
  obtain ⟨-, t, -, hparse, -, -, hclaims⟩ := h
  obtain ⟨-, t', -, hparse', -, -, hclaims'⟩ := h'
  cases hparse.symm.trans hparse'
  exact Except.ok.inj (hclaims.symm.trans hclaims')

/-- A token is accepted where it is signed and its claims are in order. -/
theorem verify_eq_ok_iff_isSigned {now : Int} {p : Policy} {token : Text} {claims : ClaimSet} :
    verify now p token = .ok claims ↔
      p.required ≠ [] ∧ IsSigned p token claims ∧ checkClaims now p claims = .ok () := by
  rw [verify_eq_ok]
  constructor
  · rintro ⟨hrequired, key, t, hkey, hparse, hheader, hsignature, hclaims, hcheck⟩
    exact ⟨hrequired, ⟨key, t, hkey, hparse, hheader, hsignature, hclaims⟩, hcheck⟩
  · rintro ⟨hrequired, ⟨key, t, hkey, hparse, hheader, hsignature, hclaims⟩, hcheck⟩
    exact ⟨hrequired, key, t, hkey, hparse, hheader, hsignature, hclaims, hcheck⟩

/-- The signature of an accepted token was checked with the key and the algorithm of the policy,
and the token's header names that algorithm. -/
theorem checkSignature_eq_ok {p : Policy} {key : VerificationKey} {t : SignedToken} :
    checkSignature p key t = .ok () ↔
      ∃ a fitting, t.parameter? "alg" = some (.str p.algorithm) ∧ p.algorithm ≠ [] ∧
        SigningAlgorithm.find? p.algorithm = some a ∧ a.fit key = .ok fitting ∧
        a.verifies fitting t.signedBytes t.signature = true := by
  have halgorithm : ∀ a, algorithm p t = .ok a ↔
      t.parameter? "alg" = some (.str p.algorithm) ∧ p.algorithm ≠ [] ∧
        SigningAlgorithm.find? p.algorithm = some a := by
    intro a
    unfold algorithm
    cases hn : t.parameter? "alg" with
    | none => simp
    | some named =>
      by_cases heq : named = .str p.algorithm
      · subst heq
        cases hp : p.algorithm with
        | nil => simp [Json.isVacant]
        | cons c rest => cases hf : SigningAlgorithm.find? (c :: rest) <;> simp [Json.isVacant]
      · simp [heq]
  have hfit : ∀ a fitting, fittingKey a key = .ok fitting ↔ a.fit key = .ok fitting := by
    intro a fitting
    unfold fittingKey
    cases a.fit key <;> simp
  unfold checkSignature
  simp only [bind_eq_ok, require_eq_ok, halgorithm, hfit]
  constructor
  · rintro ⟨a, ⟨hn, hne, hf⟩, fitting, hfits, hv⟩
    exact ⟨a, fitting, hn, hne, hf, hfits, hv⟩
  · rintro ⟨a, fitting, hn, hne, hf, hfits, hv⟩
    exact ⟨a, ⟨hn, hne, hf⟩, fitting, hfits, hv⟩

/-! ### What the claims of an accepted token say -/

theorem checkClaims_eq_ok {now : Int} {p : Policy} {claims : ClaimSet} :
    checkClaims now p claims = .ok () ↔
      checkPresent claims p.required = .ok () ∧ checkIssuer claims p.issuer = .ok () ∧
      checkAudience claims p.audience = .ok () ∧
      checkText claims "sub" .subjectNotText = .ok () ∧
      checkText claims "jti" .idNotText = .ok () ∧
      checkFilled claims p.required = .ok () ∧ checkWindow now claims = .ok () ∧
      checkSubject claims p.subject = .ok () := by
  unfold checkClaims
  simp only [bind_eq_ok]
  constructor
  · rintro ⟨_, h₁, _, h₂, _, h₃, _, h₄, _, h₅, _, h₆, _, h₇, h₈⟩
    exact ⟨h₁, h₂, h₃, h₄, h₅, h₆, h₇, h₈⟩
  · rintro ⟨h₁, h₂, h₃, h₄, h₅, h₆, h₇, h₈⟩
    exact ⟨(), h₁, (), h₂, (), h₃, (), h₄, (), h₅, (), h₆, (), h₇, h₈⟩

theorem claim_of_field? {claims : ClaimSet} {name : Text} {v : Json}
    (h : Json.field? claims name = some v) : claim claims name = v := by
  show (Json.field? claims name).getD .null = v
  rw [h]
  rfl

/-- A claim that is not there is `null`. -/
theorem claim_of_absent {claims : ClaimSet} {name : Text}
    (h : Json.field? claims name = none) : claim claims name = .null := by
  show (Json.field? claims name).getD .null = .null
  rw [h]
  rfl

/-- A claim that is not `null` is there. -/
theorem field?_of_ne_null {claims : ClaimSet} {name : Text} (h : claim claims name ≠ .null) :
    Json.field? claims name = some (claim claims name) := by
  cases hv : Json.field? claims name with
  | none => exact absurd (claim_of_absent hv) h
  | some v => rw [claim_of_field? hv]

/-- No claim that is required is vacant. -/
theorem checkFilled_eq_ok {claims : ClaimSet} {names : List Text} :
    checkFilled claims names = .ok () ↔ ∀ name ∈ names, (claim claims name).isVacant = false := by
  induction names with
  | nil => simp [checkFilled]
  | cons name names ih =>
    unfold checkFilled
    cases h : (claim claims name).isVacant with
    | true => simp [h]
    | false => simp [h, ih]

theorem checkIssuer_some {claims : ClaimSet} {expected : Text} :
    checkIssuer claims (some expected) = .ok () ↔ claim claims "iss" = .str expected := by
  unfold checkIssuer
  cases h : Json.field? claims "iss" with
  | none => simp [claim_of_absent h]
  | some v =>
    rw [claim_of_field? h]
    cases v with
    | str t => simp [require_eq_ok]
    | _ => simp

theorem checkSubject_some {claims : ClaimSet} {expected : Text} :
    checkSubject claims (some expected) = .ok () ↔ claim claims "sub" = .str expected := by
  unfold checkSubject
  rw [require_eq_ok]
  exact beq_iff_eq

/-- The audience of a token is the expected one, or a list of texts with it. -/
def Addresses (claims : ClaimSet) (audience : Text) : Prop :=
  claim claims "aud" = .str audience ∨
    ∃ many, claim claims "aud" = .arr many ∧ Json.str audience ∈ many

theorem addresses_of_checkAudience {claims : ClaimSet} {expected : Text}
    (h : checkAudience claims (some expected) = .ok ()) : Addresses claims expected := by
  unfold checkAudience at h
  dsimp only at h
  by_cases hv : (claim claims "aud").isVacant = true
  · rw [if_pos hv] at h
    cases h
  · rw [if_neg hv] at h
    cases ha : claim claims "aud" with
    | str one =>
      rw [ha] at h
      have heq : one = expected := beq_iff_eq.1 (require_eq_ok.1 h)
      exact Or.inl (by rw [ha, heq])
    | arr many =>
      rw [ha] at h
      obtain ⟨-, -, hmem⟩ := bind_eq_ok.1 h
      exact Or.inr ⟨many, ha, by simpa using require_eq_ok.1 hmem⟩
    | null | bool _ | int _ | float _ | obj _ =>
      rw [ha] at h
      cases h

end SignedToken

end Issuance
