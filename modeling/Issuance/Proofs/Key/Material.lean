import Issuance.Key.Jwk
import Issuance.Proofs.Signed.Verifier

/-!
# Issuance.Proofs.Key.Material

**Key material that nothing provides for.** Most material that gives no key is found to be at fault.
Some is not: a PEM block of a public key of a kind that is not supported
(`VerificationKey.ofPem_iff`), and a JSON Web Key that is for no algorithm at all, names one by a
list or an object, or is a secret and holds none (`Jwk.key_eq_unsupported_iff`). There is no other
(`VerificationKey.ofMaterial_eq_unsupported_iff`).
-/

namespace Issuance

/-! ### PEM blocks -/

/-- There are no keys of a kind here: it is not known, or is that of a curve without a name. -/
inductive KeyKind.IsUnsupported : KeyKind → Prop
  | unknown : IsUnsupported .unknown
  | curve {parameters : CurveParameters} (nameless : ∀ c, parameters.curve ≠ .ok c) :
    IsUnsupported (.curve parameters)

theorem KeyFault.failsOnly_orUnreadable {α : Type} (x : Option α) :
    FailsOnly (· = .unreadable) (orUnreadable x) := by
  cases x with
  | none => exact .error rfl
  | some a => exact .ok a

theorem KeyFault.orUnreadable_eq_ok {α : Type} {x : Option α} {a : α} :
    orUnreadable x = .ok a ↔ x = some a := by
  cases x <;> simp [orUnreadable]

/-- A curve that has a name is found, and any other is not supported. -/
theorem CurveParameters.failsOnly_curve {parameters : CurveParameters} :
    FailsOnly (· = .unreadable) parameters.curve ↔ ∃ c, parameters.curve = .ok c := by
  unfold curve
  dsimp only
  split
  · rename_i c _
    exact iff_of_true (.ok c) ⟨c, rfl⟩
  · exact iff_of_false (fun h => nomatch h _ rfl) (fun ⟨_, h⟩ => nomatch h)

namespace VerificationKey

theorem ofKind_iff {kind : KeyKind} {key : Bytes} :
    FailsOnly (· = .unreadable) (ofKind kind key) ↔ ¬ kind.IsUnsupported := by
  have supported : ∀ {kind : KeyKind} {x : Except KeyFault VerificationKey},
      (∀ parameters, kind ≠ .curve parameters) → kind ≠ .unknown →
      FailsOnly (· = .unreadable) x →
      (FailsOnly (· = .unreadable) x ↔ ¬ kind.IsUnsupported) := by
    intro kind x hcurve hunknown hx
    refine iff_of_true hx fun h => ?_
    cases h with
    | unknown => exact hunknown rfl
    | curve _ => exact hcurve _ rfl
  have unreadable (x : VerificationKey) (condition : Prop) [Decidable condition] :
      FailsOnly (· = .unreadable) (if condition then .ok x else .error KeyFault.unreadable) := by
    split
    · exact .ok x
    · exact .error rfl
  cases kind with
  | rsa => exact supported nofun nofun (KeyFault.failsOnly_orUnreadable _)
  | edwards c => exact supported nofun nofun (unreadable _ _)
  | raw size => exact supported nofun nofun (unreadable _ _)
  | power => exact supported nofun nofun (unreadable _ _)
  | unknown => exact iff_of_false (fun h => nomatch h _ rfl) (fun h => h .unknown)
  | curve parameters =>
    unfold ofKind
    rw [FailsOnly.bind_iff, CurveParameters.failsOnly_curve]
    constructor
    · rintro ⟨⟨c, hc⟩, -⟩ h
      cases h with
      | curve nameless => exact nameless c hc
    · intro h
      refine ⟨Classical.byContradiction fun hnone => h (.curve (not_exists.1 hnone)), ?_⟩
      exact fun c _ => KeyFault.failsOnly_orUnreadable _

theorem ofGeneral_iff {bs : Bytes} : FailsOnly (· = .unreadable) (ofGeneral bs) ↔
    ∀ kind key, general? bs = some (kind, key) → ¬ kind.IsUnsupported := by
  unfold ofGeneral
  rw [FailsOnly.bind_iff]
  simp only [KeyFault.failsOnly_orUnreadable, KeyFault.orUnreadable_eq_ok, true_and, ofKind_iff,
    Prod.forall]

/-- A PEM text holds a public key of a kind that is not supported. -/
structure IsUnsupportedPem (t : Text) (pem : Pem) (kind : KeyKind) (key : Bytes) : Prop where
  block : Pem.read? t = some pem
  general : general? pem.contents = some (kind, key)
  kind : kind.IsUnsupported
  /-- Under the label of RSA keys a key may also be in their own form. -/
  label : pem.label = "PUBLIC KEY" ∨
    pem.label = "RSA PUBLIC KEY" ∧ ofRsaNumbers? pem.contents = none

theorem ofPem_iff {t : Text} : FailsOnly (· = .unreadable) (ofPem t) ↔
    ¬ ∃ pem kind key, IsUnsupportedPem t pem kind key := by
  unfold ofPem
  cases hpem : Pem.read? t with
  | none =>
    refine iff_of_true (.error rfl) ?_
    rintro ⟨pem, kind, key, h⟩
    cases hpem.symm.trans h.block
  | some pem =>
    have hunsupported : (∃ pem kind key, IsUnsupportedPem t pem kind key) ↔
        (pem.label = "PUBLIC KEY" ∨
          pem.label = "RSA PUBLIC KEY" ∧ ofRsaNumbers? pem.contents = none) ∧
        ¬ FailsOnly (· = .unreadable) (ofGeneral pem.contents) := by
      rw [ofGeneral_iff]
      constructor
      · rintro ⟨pem', kind, key, h⟩
        cases hpem.symm.trans h.block
        exact ⟨h.label, fun hsupported => hsupported kind key h.general h.kind⟩
      · rintro ⟨hlabel, h⟩
        simp only [Classical.not_forall, Classical.not_not] at h
        obtain ⟨kind, key, hgeneral, hkind⟩ := h
        exact ⟨pem, kind, key, hpem, hgeneral, hkind, hlabel⟩
    rw [hunsupported]
    dsimp only
    by_cases hpublic : pem.label = "PUBLIC KEY"
    · simp [hpublic]
    · rw [if_neg hpublic]
      by_cases hrsa : pem.label = "RSA PUBLIC KEY"
      · rw [if_pos hrsa]
        cases ofRsaNumbers? pem.contents with
        | some key => simp [hpublic, FailsOnly.ok]
        | none =>
          cases ofGeneral pem.contents with
          | error f => simp [hrsa, FailsOnly.error_iff]
          | ok key => cases key <;> simp [FailsOnly.ok, FailsOnly.error_iff]
      · simp [hpublic, hrsa, FailsOnly.error_iff]

end VerificationKey

/-! ### JSON Web Keys -/

namespace SigningAlgorithm

theorem mem_of_find? {name : Text} {a : SigningAlgorithm} (h : find? name = some a) :
    a ∈ all ∧ a.name = name := by
  refine ⟨List.mem_of_find?_eq_some h, ?_⟩
  simpa using List.find?_some h

/-- The only algorithm without signatures is the one that is called so. -/
theorem unsigned_iff {name : Text} {a : SigningAlgorithm} (h : find? name = some a) :
    a.scheme = .unsigned ↔ name = "none" := by
  obtain ⟨hmem, rfl⟩ := mem_of_find? h
  clear h
  revert a
  simp only [all, List.forall_mem_cons]
  simp
  decide

end SigningAlgorithm

namespace Jwk

/-- A JSON Web Key asks for something that no rule provides for, when it is taken for a key of an
algorithm. -/
inductive IsUnsupportedFor (jwk : Json) : Text → Prop
  | unsigned : IsUnsupportedFor jwk "none"
  /-- It is a secret, and holds none. -/
  | secretless {name : Text} {a : SigningAlgorithm} (found : SigningAlgorithm.find? name = some a)
    (keyed : a.scheme = .secret) (kind : jwk.member "kty" = .str "oct")
    (absent : jwk.member? "k" = none) : IsUnsupportedFor jwk name

/-- The algorithm that a key is for: the one that it names, or else the one asked for, or else the
one that its kind implies. -/
def intended? (jwk : Json) (algorithm : Text) : Option Text :=
  if (jwk.member "alg").isVacant then
    if algorithm.isEmpty then impliedAlgorithm? jwk else some algorithm
  else (jwk.member "alg").text?

/-- A JSON Web Key asks for something that no rule provides for. -/
inductive IsUnsupported (jwk : Json) (algorithm : Text) : Prop
  /-- It names its algorithm by a list. -/
  | list {items : List Json} (named : jwk.member "alg" = .arr items) (filled : items ≠ [])
  /-- It names its algorithm by an object. -/
  | object {members : List (Text × Json)} (named : jwk.member "alg" = .obj members)
    (filled : members ≠ [])
  | algorithm {name : Text} (intended : intended? jwk algorithm = some name)
    (unsupported : IsUnsupportedFor jwk name)

theorem orUnusable_ne_unsupported (k : Option VerificationKey) :
    orUnusable k ≠ .error .unsupported := by
  cases k <;> simp [orUnusable]

theorem secret_eq_unsupported_iff {jwk : Json} :
    secret jwk = .error .unsupported ↔ jwk.member? "k" = none := by
  unfold secret
  split
  · rename_i h
    exact iff_of_true rfl h
  · rename_i h _
    simp [h]
  · rename_i h _
    simp [h]

theorem forAlgorithm_eq_unsupported_iff {jwk : Json} {name : Text} :
    forAlgorithm jwk name = .error .unsupported ↔ IsUnsupportedFor jwk name := by
  unfold forAlgorithm
  cases hfound : SigningAlgorithm.find? name with
  | none =>
    refine iff_of_false nofun fun h => ?_
    cases h with
    | unsigned => exact absurd hfound (by decide)
    | secretless found => cases hfound.symm.trans found
  | some a =>
    have hnone := SigningAlgorithm.unsigned_iff hfound
    have keyed : IsUnsupportedFor jwk name ↔
        a.scheme = .unsigned ∨
          a.scheme = .secret ∧ jwk.member "kty" = .str "oct" ∧ jwk.member? "k" = none := by
      constructor
      · intro h
        cases h with
        | unsigned => exact Or.inl (hnone.2 rfl)
        | secretless found keyed kind absent =>
          cases hfound.symm.trans found
          exact Or.inr ⟨keyed, kind, absent⟩
      · rintro (h | ⟨keyed, kind, absent⟩)
        · rw [hnone.1 h]
          exact .unsigned
        · exact .secretless hfound keyed kind absent
    rw [keyed]
    dsimp only
    cases hscheme : a.scheme with
    | unsigned => simp
    | secret =>
      dsimp only
      split
      · rename_i hkind
        simp [secret_eq_unsupported_iff, hkind]
      · rename_i hkind
        simp [hkind]
    | rsaPkcs1 | rsaPss | curve | edwards =>
      dsimp only
      split
      · simp [orUnusable_ne_unsupported]
      · simp

/-- A key with a name for its algorithm, whether or not it is its own, asks for what it asks for as
a key of that algorithm. -/
theorem isUnsupported_iff_of_intended {jwk : Json} {algorithm name : Text}
    (h : intended? jwk algorithm = some name) :
    IsUnsupported jwk algorithm ↔ IsUnsupportedFor jwk name := by
  constructor
  · intro hunsupported
    cases hunsupported with
    | list named filled =>
      unfold intended? at h
      rw [named] at h
      simp [Json.isVacant, Json.text?, filled] at h
    | object named filled =>
      unfold intended? at h
      rw [named] at h
      simp [Json.isVacant, Json.text?, filled] at h
    | algorithm intended unsupported =>
      cases h.symm.trans intended
      exact unsupported
  · exact .algorithm h

/-- What a key gives that names no algorithm. -/
theorem key_of_vacant {jwk : Json} {algorithm : Text} (hkind : (jwk.member "kty").isVacant = false)
    (hnamed : (jwk.member "alg").isVacant = true) :
    key jwk algorithm = match intended? jwk algorithm with
      | none => .error .unusable
      | some name => forAlgorithm jwk name := by
  unfold key intended?
  dsimp only
  rw [hkind, hnamed, if_neg Bool.false_ne_true, if_pos rfl, if_pos rfl]
  split <;> rfl

/-- What a key gives that names its algorithm, in whatever form. -/
theorem key_of_filled {jwk : Json} {algorithm : Text} (hkind : (jwk.member "kty").isVacant = false)
    (hnamed : (jwk.member "alg").isVacant = false) :
    key jwk algorithm = match jwk.member "alg" with
      | .str name => forAlgorithm jwk name
      | .arr _ | .obj _ => .error .unsupported
      | _ => .error .unusable := by
  unfold key
  dsimp only
  rw [hkind, if_neg Bool.false_ne_true]
  exact if_neg (hnamed ▸ Bool.false_ne_true)

theorem key_eq_unsupported_iff {jwk : Json} {algorithm : Text} :
    key jwk algorithm = .error .unsupported ↔
      (jwk.member "kty").isVacant = false ∧ IsUnsupported jwk algorithm := by
  cases hkind : (jwk.member "kty").isVacant with
  | true => simp [key, hkind]
  | false =>
    simp only [true_and]
    cases hnamed : (jwk.member "alg").isVacant with
    | true =>
      rw [key_of_vacant hkind hnamed]
      cases hintended : intended? jwk algorithm with
      | some name =>
        rw [isUnsupported_iff_of_intended hintended]
        exact forAlgorithm_eq_unsupported_iff
      | none =>
        refine iff_of_false (by simp) fun h => ?_
        cases h with
        | list named filled => simp [named, Json.isVacant, filled] at hnamed
        | object named filled => simp [named, Json.isVacant, filled] at hnamed
        | algorithm intended _ => cases hintended.symm.trans intended
    | false =>
      rw [key_of_filled hkind hnamed]
      have hintended : intended? jwk algorithm = (jwk.member "alg").text? := by
        unfold intended?
        rw [hnamed, if_neg Bool.false_ne_true]
      cases halg : jwk.member "alg" with
      | str name =>
        rw [halg] at hintended
        rw [isUnsupported_iff_of_intended hintended]
        exact forAlgorithm_eq_unsupported_iff
      | arr items =>
        rw [halg] at hnamed
        exact iff_of_true rfl (.list halg (by simpa [Json.isVacant] using hnamed))
      | obj members =>
        rw [halg] at hnamed
        exact iff_of_true rfl (.object halg (by simpa [Json.isVacant] using hnamed))
      | null | bool | int | float =>
        refine iff_of_false (by simp) fun h => ?_
        cases h with
        | list named _ => cases halg.symm.trans named
        | object named _ => cases halg.symm.trans named
        | algorithm intended _ =>
          rw [hintended, halg] at intended
          cases intended

end Jwk

/-! ### Key material -/

namespace VerificationKey

/-- Key material asks for something that no rule provides for. -/
inductive IsUnsupported (material algorithm : Text) : Prop
  | pem {pem : Pem} {kind : KeyKind} {key : Bytes}
    (begins : material.trim.startsWith "-----BEGIN" = true) (ascii : material.trim.isAscii = true)
    (unsupported : IsUnsupportedPem material.trim pem kind key)
  | jwk {bs : Bytes} {members : List (Text × Json)}
    (begins : material.trim.startsWith "-----BEGIN" = false)
    (decodes : Base64.decode? material.trim = .ok bs)
    (object : (Utf8.decode? bs).bind Json.read? = some (.obj members))
    (kind : ((Json.obj members).member "kty").isVacant = false)
    (unsupported : Jwk.IsUnsupported (.obj members) algorithm)

theorem ofMaterial_eq_unsupported_iff {material algorithm : Text} :
    ofMaterial material algorithm = .error .unsupported ↔ IsUnsupported material algorithm := by
  unfold ofMaterial
  dsimp only
  cases hempty : material.trim.isEmpty with
  | true =>
    have hnil : material.trim = [] := List.isEmpty_iff.1 hempty
    refine iff_of_false nofun fun h => ?_
    cases h with
    | pem begins _ _ =>
      rw [hnil] at begins
      exact absurd begins (by decide)
    | jwk _ decodes object _ _ =>
      rw [hnil] at decodes
      cases decodes
      have hnone : (Utf8.decode? []).bind Json.read? = none := by decide +kernel
      cases hnone.symm.trans object
  | false =>
    rw [if_neg Bool.false_ne_true]
    cases hbegins : material.trim.startsWith "-----BEGIN" with
    | true =>
      rw [if_pos rfl]
      have hpem : IsUnsupported material algorithm ↔ material.trim.isAscii = true ∧
          ¬ FailsOnly (· = .unreadable) (ofPem material.trim) := by
        rw [ofPem_iff, Classical.not_not]
        constructor
        · intro h
          cases h with
          | pem _ ascii unsupported => exact ⟨ascii, _, _, _, unsupported⟩
          | jwk begins => cases hbegins.symm.trans begins
        · rintro ⟨ascii, _, _, _, unsupported⟩
          exact .pem hbegins ascii unsupported
      rw [hpem]
      cases material.trim.isAscii with
      | false => simp
      | true =>
        rw [if_pos rfl]
        cases ofPem material.trim with
        | ok key => simp [FailsOnly.ok]
        | error f => cases f <;> simp [FailsOnly.error_iff]
    | false =>
      rw [if_neg Bool.false_ne_true]
      cases hdecodes : Base64.decode? material.trim with
      | error f =>
        refine iff_of_false nofun fun h => ?_
        cases h with
        | pem begins => cases hbegins.symm.trans begins
        | jwk _ decodes => cases hdecodes.symm.trans decodes
      | ok bs =>
        dsimp only
        have hjwk : IsUnsupported material algorithm ↔ ∃ members,
            (Utf8.decode? bs).bind Json.read? = some (.obj members) ∧
              Jwk.key (.obj members) algorithm = .error .unsupported := by
          simp only [Jwk.key_eq_unsupported_iff]
          constructor
          · intro h
            cases h with
            | pem begins => cases hbegins.symm.trans begins
            | jwk _ decodes object kind unsupported =>
              cases hdecodes.symm.trans decodes
              exact ⟨_, object, kind, unsupported⟩
          · rintro ⟨members, object, kind, unsupported⟩
            exact .jwk hbegins hdecodes object kind unsupported
        rw [hjwk]
        cases (Utf8.decode? bs).bind Json.read? with
        | none => simp
        | some v => cases v <;> simp

/-- A point is a key on its curve. -/
theorem eq_curve_of_ofPoint? {c : NamedCurve} {x y : Nat} {key : VerificationKey}
    (h : ofPoint? c x y = some key) : key = .curve c x y := by
  unfold ofPoint? at h
  split at h
  · exact (Option.some.inj h).symm
  · cases h

theorem ofEncodedPoint?_ne_pair (c : NamedCurve) (bs : Bytes) (half : VerificationKey) :
    ofEncodedPoint? c bs ≠ some (.pair half) := by
  intro h
  unfold ofEncodedPoint? at h
  split at h
  · cases h
  · dsimp only at h
    split at h
    · split at h
      · cases eq_curve_of_ofPoint? h
      · cases h
    · split at h
      · obtain ⟨y, -, hpoint⟩ := Option.bind_eq_some_iff.1 h
        cases eq_curve_of_ofPoint? hpoint
      · cases h

theorem ofRsaNumbers?_ne_pair (bs : Bytes) (half : VerificationKey) :
    ofRsaNumbers? bs ≠ some (.pair half) := by
  simp [ofRsaNumbers?, Option.bind_eq_some_iff]

theorem ofKind_ne_pair (kind : KeyKind) (bs : Bytes) (half : VerificationKey) :
    ofKind kind bs ≠ .ok (.pair half) := by
  cases kind with
  | rsa =>
    unfold ofKind
    rw [Ne, KeyFault.orUnreadable_eq_ok]
    exact ofRsaNumbers?_ne_pair bs half
  | curve parameters =>
    intro h
    obtain ⟨c, -, hpoint⟩ := bind_eq_ok.1 h
    exact ofEncodedPoint?_ne_pair c bs half (KeyFault.orUnreadable_eq_ok.1 hpoint)
  | edwards | raw | power =>
    dsimp only [ofKind]
    split <;> simp
  | unknown => simp [ofKind]

theorem ofGeneral_ne_pair (bs : Bytes) (half : VerificationKey) :
    ofGeneral bs ≠ .ok (.pair half) := by
  intro h
  obtain ⟨⟨kind, key⟩, -, hkey⟩ := bind_eq_ok.1 h
  exact ofKind_ne_pair kind key half hkey

/-- The key in a PEM block of a public key is a public one. -/
theorem ofPem_ne_pair (t : Text) (half : VerificationKey) : ofPem t ≠ .ok (.pair half) := by
  intro h
  unfold ofPem at h
  split at h
  · cases h
  · split at h
    · exact ofGeneral_ne_pair _ half h
    · split at h
      · split at h
        · rename_i hnumbers
          rw [Except.ok.inj h] at hnumbers
          exact ofRsaNumbers?_ne_pair _ half hnumbers
        · cases h
        · cases h
        · cases h
      · cases h

end VerificationKey

end Issuance
