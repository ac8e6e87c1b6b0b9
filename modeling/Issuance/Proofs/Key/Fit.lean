import Issuance.Key.Fit
import Issuance.Proofs.Key.Material

/-!
# Issuance.Proofs.Key.Fit

**Algorithms and keys of other kinds.** Whatever a key was made for, an algorithm takes from it a
key of its own kind or none (`SigningAlgorithm.takes_of_fit`), and a secret that it takes is no key
in writing. What it does not take it refuses, at times with a word to say why. It has none for keys
of most other kinds, nor for secrets that it takes for a key in writing and cannot read
(`SigningAlgorithm.fit_eq_unprovided_iff`).
-/

namespace Issuance

/-! ### The keys that are taken -/

/-- A key is of the kind that signatures of a scheme are verified with. There is none for no
signature. -/
inductive SignatureScheme.Takes : SignatureScheme → VerificationKey → Prop
  | secret (bs : Bytes) : Takes .secret (.secret bs)
  | rsaPkcs1 (label : Bytes) (key : Rsa.PublicKey) : Takes (.rsaPkcs1 label) (.rsa key)
  | rsaPss (key : Rsa.PublicKey) : Takes .rsaPss (.rsa key)
  | curve (c : NamedCurve) (x y : Nat) : Takes (.curve c) (.curve c x y)
  | edwards (c : EdwardsCurve) (x : Bytes) : Takes .edwards (.edwards c x)

namespace KeyFit

theorem eq_rsa_of_takeRsa {key fitting : VerificationKey} (h : takeRsa key = .ok fitting) :
    ∃ k, fitting = .rsa k := by
  unfold takeRsa at h
  split at h
  · exact ⟨_, (Except.ok.inj h).symm⟩
  · cases h
  · cases h

theorem eq_curve_of_takeCurve {expected : NamedCurve} {key fitting : VerificationKey}
    (h : takeCurve expected key = .ok fitting) : ∃ x y, fitting = .curve expected x y := by
  unfold takeCurve at h
  split at h
  · split at h
    · rename_i hcurve
      exact ⟨_, _, hcurve ▸ (Except.ok.inj h).symm⟩
    · cases h
  · split at h
    · rename_i hcurve
      exact ⟨_, _, hcurve ▸ (Except.ok.inj h).symm⟩
    · cases h
  · cases h

theorem eq_edwards_of_takeEdwards {key fitting : VerificationKey}
    (h : takeEdwards key = .ok fitting) : ∃ c x, fitting = .edwards c x := by
  unfold takeEdwards at h
  split at h
  · exact ⟨_, _, (Except.ok.inj h).symm⟩
  · exact ⟨_, _, (Except.ok.inj h).symm⟩
  · cases h

theorem eq_rsa_of_rsa {bs : Bytes} {fitting : VerificationKey} (h : rsa bs = .ok fitting) :
    ∃ k, fitting = .rsa k := by
  unfold rsa at h
  split at h
  · exact eq_rsa_of_takeRsa h
  · unfold rsaOfPublicPem at h
    split at h
    · exact eq_rsa_of_takeRsa h
    · cases h
  · cases h

/-- What is read for a key and then taken is the taken form of some key. -/
theorem exists_take_of_orUnprovided {read : Except KeyFault VerificationKey}
    {take : VerificationKey → Except KeyMismatch VerificationKey} {fitting : VerificationKey}
    (h : orUnprovided read >>= take = .ok fitting) : ∃ key, take key = .ok fitting := by
  obtain ⟨key, -, hkey⟩ := bind_eq_ok.1 h
  exact ⟨key, hkey⟩

theorem eq_curve_of_curve {expected : NamedCurve} {bs : Bytes} {fitting : VerificationKey}
    (h : curve expected bs = .ok fitting) : ∃ x y, fitting = .curve expected x y := by
  unfold curve at h
  split at h
  · exact eq_curve_of_takeCurve h
  · obtain ⟨key, hkey⟩ := exists_take_of_orUnprovided h
    exact eq_curve_of_takeCurve hkey
  · cases h

theorem eq_edwards_of_edwards {bs : Bytes} {fitting : VerificationKey}
    (h : edwards bs = .ok fitting) : ∃ c x, fitting = .edwards c x := by
  have htaken : ∃ key, takeEdwards key = .ok fitting := by
    unfold edwards at h
    split at h
    · cases h
    · split at h
      · exact exists_take_of_orUnprovided h
      · split at h
        · exact exists_take_of_orUnprovided h
        · split at h
          · exact exists_take_of_orUnprovided h
          · cases h
  obtain ⟨key, hkey⟩ := htaken
  exact eq_edwards_of_takeEdwards hkey

/-- A secret that serves as such is no key in writing. -/
theorem secret_eq_ok {bs : Bytes} {fitting : VerificationKey} : secret bs = .ok fitting ↔
    fitting = .secret bs ∧ Secret.isWrittenKey bs = false ∧ Secret.isJwk bs = false := by
  unfold secret
  cases Secret.isWrittenKey bs <;> cases Secret.isJwk bs <;> simp [eq_comm]

end KeyFit

namespace SigningAlgorithm

/-- Both ways of signing with RSA take the same keys. -/
theorem eq_rsa_of_fit {a : SigningAlgorithm} {key fitting : VerificationKey}
    (hscheme : (∃ label, a.scheme = .rsaPkcs1 label) ∨ a.scheme = .rsaPss)
    (h : a.fit key = .ok fitting) : ∃ k, fitting = .rsa k := by
  unfold fit at h
  rcases hscheme with ⟨label, hscheme⟩ | hscheme
  all_goals
    rw [hscheme] at h
    cases key with
    | secret bs => exact KeyFit.eq_rsa_of_rsa h
    | rsa k => exact ⟨k, (Except.ok.inj h).symm⟩
    | curve | edwards | pair | other => cases h

/-- A keyed hash takes the registered secret, which is no key in writing. -/
theorem eq_secret_of_fit {a : SigningAlgorithm} {key fitting : VerificationKey}
    (hscheme : a.scheme = .secret) (h : a.fit key = .ok fitting) :
    ∃ bs, key = .secret bs ∧ fitting = .secret bs ∧ Secret.isWrittenKey bs = false ∧
      Secret.isJwk bs = false := by
  unfold fit at h
  rw [hscheme] at h
  cases key with
  | secret bs => exact ⟨bs, rfl, KeyFit.secret_eq_ok.1 h⟩
  | curve | rsa | edwards | pair | other => cases h

theorem eq_curve_of_fit {a : SigningAlgorithm} {expected : NamedCurve}
    {key fitting : VerificationKey} (hscheme : a.scheme = .curve expected)
    (h : a.fit key = .ok fitting) : ∃ x y, fitting = .curve expected x y := by
  unfold fit at h
  rw [hscheme] at h
  cases key with
  | secret bs => exact KeyFit.eq_curve_of_curve h
  | curve c x y => exact KeyFit.eq_curve_of_takeCurve h
  | pair half =>
    cases half with
    | curve c x y => exact KeyFit.eq_curve_of_takeCurve h
    | rsa | secret | edwards | pair | other => cases h
  | rsa | edwards | other => cases h

theorem eq_edwards_of_fit {a : SigningAlgorithm} {key fitting : VerificationKey}
    (hscheme : a.scheme = .edwards) (h : a.fit key = .ok fitting) :
    ∃ c x, fitting = .edwards c x := by
  unfold fit at h
  rw [hscheme] at h
  cases key with
  | secret bs => exact KeyFit.eq_edwards_of_edwards h
  | curve | rsa | edwards | pair | other => exact KeyFit.eq_edwards_of_takeEdwards h

/-- **An algorithm takes a key of its own kind or none.** -/
theorem takes_of_fit {a : SigningAlgorithm} {key fitting : VerificationKey}
    (h : a.fit key = .ok fitting) : a.scheme.Takes fitting := by
  cases hscheme : a.scheme with
  | unsigned =>
    unfold fit at h
    rw [hscheme] at h
    cases h
  | secret =>
    obtain ⟨bs, -, rfl, -⟩ := eq_secret_of_fit hscheme h
    exact .secret bs
  | rsaPkcs1 label =>
    obtain ⟨k, rfl⟩ := eq_rsa_of_fit (Or.inl ⟨label, hscheme⟩) h
    exact .rsaPkcs1 label k
  | rsaPss =>
    obtain ⟨k, rfl⟩ := eq_rsa_of_fit (Or.inr hscheme) h
    exact .rsaPss k
  | curve expected =>
    obtain ⟨x, y, rfl⟩ := eq_curve_of_fit hscheme h
    exact .curve expected x y
  | edwards =>
    obtain ⟨c, x, rfl⟩ := eq_edwards_of_fit hscheme h
    exact .edwards c x

/-- A secret that an algorithm takes is the registered key, and no key in writing. -/
theorem secret_of_fit {a : SigningAlgorithm} {key : VerificationKey} {bs : Bytes}
    (h : a.fit key = .ok (.secret bs)) :
    key = .secret bs ∧ Secret.isWrittenKey bs = false ∧ Secret.isJwk bs = false := by
  have htakes := takes_of_fit h
  cases hscheme : a.scheme with
  | secret =>
    obtain ⟨bs', hkey, hbs, hwritten⟩ := eq_secret_of_fit hscheme h
    cases hbs
    exact ⟨hkey, hwritten⟩
  | unsigned | rsaPkcs1 | rsaPss | curve | edwards =>
    rw [hscheme] at htakes
    cases htakes

/-- The algorithm without signatures takes no key. -/
theorem ne_none_of_fit {name : Text} {a : SigningAlgorithm} {key fitting : VerificationKey}
    (found : find? name = some a) (h : a.fit key = .ok fitting) : name ≠ "none" := by
  rintro rfl
  cases Option.some.inj (found.symm.trans (show find? "none" = some ⟨"none", .unsigned, .sha256⟩
    from rfl))
  cases takes_of_fit h

end SigningAlgorithm

/-! ### Secrets read as keys in writing -/

namespace KeyFit

/-- The form in which a secret is first read for an RSA key. -/
def firstForRsa (bs : Bytes) : Except KeyFault VerificationKey :=
  if (Bytes.toAscii bs).startsWith "ssh-rsa" then line bs else privatePem bs

/-- The form in which a secret is first read for a key on a curve. -/
def firstForCurve (bs : Bytes) : Except KeyFault VerificationKey :=
  if (Bytes.toAscii bs).startsWith "ecdsa-sha2-" then line bs else publicPem bs

/-- The only form in which a secret is read for a key on an Edwards curve, if it says by a word in
it that it is a key. -/
def onlyForEdwards? (bs : Bytes) (t : Text) : Option (Except KeyFault VerificationKey) :=
  if t.contains "-----BEGIN PUBLIC" then some (publicPem bs)
  else if t.contains "-----BEGIN PRIVATE" then some (privatePem bs)
  else if t.startsWith "ssh-" then some (line bs)
  else none

theorem takeRsa_eq_unprovided_iff {key : VerificationKey} :
    takeRsa key = .error .unprovided ↔ ∃ k, key = .pair (.rsa k) := by
  unfold takeRsa
  split
  · simp
  · simp
  · rename_i hpair
    simpa using hpair

theorem takeCurve_ne_unprovided (expected : NamedCurve) (key : VerificationKey) :
    takeCurve expected key ≠ .error .unprovided := by
  unfold takeCurve
  split
  · split <;> simp
  · split <;> simp
  · simp

theorem takeEdwards_ne_unprovided (key : VerificationKey) :
    takeEdwards key ≠ .error .unprovided := by
  unfold takeEdwards
  split <;> simp

theorem secret_ne_unprovided (bs : Bytes) : secret bs ≠ .error .unprovided := by
  unfold secret
  split
  · simp
  · split <;> simp

theorem orUnprovided_bind_eq_unprovided_iff {read : Except KeyFault VerificationKey}
    {take : VerificationKey → Except KeyMismatch VerificationKey}
    (htake : ∀ key, take key ≠ .error .unprovided) :
    orUnprovided read >>= take = .error .unprovided ↔ ∀ key, read ≠ .ok key := by
  cases read with
  | error f => exact iff_of_true rfl nofun
  | ok key => exact iff_of_false (htake key) fun h => h key rfl

theorem curve_eq_unprovided_iff {expected : NamedCurve} {bs : Bytes} :
    curve expected bs = .error .unprovided ↔
      ¬ FailsOnly (· = .unreadable) (firstForCurve bs) ∨
        firstForCurve bs = .error .unreadable ∧ ∀ key, privatePem bs ≠ .ok key := by
  have hfirst : (if (Bytes.toAscii bs).startsWith "ecdsa-sha2-" then line bs else publicPem bs) =
      firstForCurve bs := rfl
  unfold curve
  rw [hfirst]
  cases firstForCurve bs with
  | ok key => simp [takeCurve_ne_unprovided, FailsOnly.ok]
  | error f =>
    cases f with
    | unreadable =>
      simp only [FailsOnly.error_iff, not_true_eq_false, true_and, false_or]
      exact orUnprovided_bind_eq_unprovided_iff (takeCurve_ne_unprovided expected)
    | encrypted | unsupported => simp [FailsOnly.error_iff]

theorem edwards_eq_unprovided_iff {bs : Bytes} :
    edwards bs = .error .unprovided ↔ ∀ t, Utf8.decode? bs = some t →
      ∃ form, onlyForEdwards? bs t = some form ∧ ∀ key, form ≠ .ok key := by
  unfold edwards onlyForEdwards?
  cases Utf8.decode? bs with
  | none => simp
  | some t =>
    simp only [Option.some.injEq, forall_eq']
    split
    · simp [orUnprovided_bind_eq_unprovided_iff takeEdwards_ne_unprovided]
    · split
      · simp [orUnprovided_bind_eq_unprovided_iff takeEdwards_ne_unprovided]
      · split
        · simp [orUnprovided_bind_eq_unprovided_iff takeEdwards_ne_unprovided]
        · simp

theorem rsa_eq_unprovided_iff {bs : Bytes} :
    rsa bs = .error .unprovided ↔
      (∃ k, firstForRsa bs = .ok (.pair (.rsa k))) ∨
        ¬ FailsOnly (· = .unreadable) (firstForRsa bs) := by
  have hfirst : (if (Bytes.toAscii bs).startsWith "ssh-rsa" then line bs else privatePem bs) =
      firstForRsa bs := rfl
  unfold rsa
  rw [hfirst]
  cases firstForRsa bs with
  | ok key => simp [takeRsa_eq_unprovided_iff, FailsOnly.ok]
  | error f =>
    cases f with
    | unreadable =>
      -- What is tried then is a public key, and of these the algorithm refuses every other kind.
      refine iff_of_false (fun h => ?_) (by simp [FailsOnly.error_iff])
      dsimp only at h
      unfold rsaOfPublicPem publicPem at h
      split at h
      · rename_i key hkey
        obtain ⟨k, rfl⟩ := takeRsa_eq_unprovided_iff.1 h
        obtain ⟨t, -, hpem⟩ := bind_eq_ok.1 hkey
        exact VerificationKey.ofPem_ne_pair t _ hpem
      · cases h
    | encrypted | unsupported => simp [FailsOnly.error_iff]

end KeyFit

/-! ### The keys without an answer -/

namespace SignatureScheme

/-- A scheme has a rule for keys of a kind, be it that they are refused. -/
def hasRuleFor : SignatureScheme → VerificationKey → Bool
  | .unsigned, _ | .edwards, _ | _, .secret _ => true
  | .rsaPkcs1 _, .rsa _ | .rsaPss, .rsa _ => true
  | .curve _, .curve _ _ _ | .curve _, .pair (.curve _ _ _) => true
  | _, _ => false

/-- A secret is taken for a key in writing, and what comes of reading it is not provided for. -/
def IsMisread : SignatureScheme → Bytes → Prop
  -- Nothing is read.
  | .unsigned, _ | .secret, _ => False
  -- It is a private key, under a password, or of a kind that is not supported.
  | .rsaPkcs1 _, bs | .rsaPss, bs =>
    (∃ k, KeyFit.firstForRsa bs = .ok (.pair (.rsa k))) ∨
      ¬ FailsOnly (· = .unreadable) (KeyFit.firstForRsa bs)
  -- It is of a kind that is not supported, or neither a public key nor a private one.
  | .curve _, bs =>
    ¬ FailsOnly (· = .unreadable) (KeyFit.firstForCurve bs) ∨
      KeyFit.firstForCurve bs = .error .unreadable ∧ ∀ key, KeyFit.privatePem bs ≠ .ok key
  -- It is not text, or says that it is a key and cannot be read as one.
  | .edwards, bs => ∀ t, Utf8.decode? bs = some t →
    ∃ form, KeyFit.onlyForEdwards? bs t = some form ∧ ∀ key, form ≠ .ok key

end SignatureScheme

/-- **The keys for which an algorithm has no answer**: those of a kind that it has no rule for, and
secrets that it reads as a key in writing and cannot. -/
theorem SigningAlgorithm.fit_eq_unprovided_iff {a : SigningAlgorithm} {key : VerificationKey} :
    a.fit key = .error .unprovided ↔
      a.scheme.hasRuleFor key = false ∨ ∃ bs, key = .secret bs ∧ a.scheme.IsMisread bs := by
  unfold fit
  cases hscheme : a.scheme with
  | unsigned => simp [SignatureScheme.hasRuleFor, SignatureScheme.IsMisread]
  | secret =>
    cases key with
    | secret bs =>
      simp [SignatureScheme.hasRuleFor, SignatureScheme.IsMisread, KeyFit.secret_ne_unprovided]
    | curve | rsa | edwards | pair | other => simp [SignatureScheme.hasRuleFor]
  | rsaPkcs1 | rsaPss =>
    cases key with
    | secret bs =>
      simp [SignatureScheme.hasRuleFor, SignatureScheme.IsMisread, KeyFit.rsa_eq_unprovided_iff]
    | curve | rsa | edwards | pair | other => simp [SignatureScheme.hasRuleFor]
  | curve expected =>
    cases key with
    | secret bs =>
      simp [SignatureScheme.hasRuleFor, SignatureScheme.IsMisread, KeyFit.curve_eq_unprovided_iff]
    | pair half =>
      cases half <;> simp [SignatureScheme.hasRuleFor, KeyFit.takeCurve_ne_unprovided]
    | curve => simp [SignatureScheme.hasRuleFor, KeyFit.takeCurve_ne_unprovided]
    | rsa | edwards | other => simp [SignatureScheme.hasRuleFor]
  | edwards =>
    cases key with
    | secret bs =>
      simp [SignatureScheme.hasRuleFor, SignatureScheme.IsMisread,
        KeyFit.edwards_eq_unprovided_iff]
    | curve | rsa | edwards | pair | other =>
      simp [SignatureScheme.hasRuleFor, KeyFit.takeEdwards_ne_unprovided]

end Issuance
