import Issuance.Session.Validation
import Issuance.Proofs.Bytes.Base64
import Issuance.Proofs.Signed.Verifier
import Issuance.Proofs.Text.Utf8

/-!
# Issuance.Proofs.Signed.Compact

**What was signed is verified.** `SignedToken.parse` gets back the parts that `compact` joined, so
a compact token is signed where its signature is right for the bytes of its first two segments
(`isSigned_compact`). Nothing here depends on the algorithm.
-/

namespace Issuance

namespace SignedToken

/-- The two segments that a signature covers. -/
def signingInput (header payload : Bytes) : Text :=
  Base64.encodeUrl header ++ "." ++ Base64.encodeUrl payload

/-- What holds of the alphabet and of the point holds of a compact token. -/
theorem forall_mem_compact {p : CodePoint → Bool} (h : ∀ v < 64, p (Base64.urlChar v) = true)
    (hpoint : p '.' = true) {header payload signature : Bytes} :
    ∀ c ∈ compact header payload signature, p c = true := by
  intro c hc
  rcases Text.mem_joined hc with hc | ⟨t, ht, hc⟩
  · rw [List.mem_singleton.1 hc]
    exact hpoint
  · obtain ⟨bs, -, rfl⟩ := List.mem_map.1 ht
    exact Base64.forall_mem_encodeUrl h c hc

theorem isAscii_compact (header payload signature : Bytes) :
    Text.isAscii (compact header payload signature) = true :=
  Text.isAscii_iff.2 (forall_mem_compact (by decide) (by decide))

theorem encodable_compact (header payload signature : Bytes) :
    (compact header payload signature).any CodePoint.isSurrogate = false :=
  (Text.isScalar_of_isAscii (isAscii_compact header payload signature)).any

theorem pieces_compact (header payload signature : Bytes) :
    Text.pieces (· = '.') (compact header payload signature) =
      [Base64.encodeUrl header, Base64.encodeUrl payload, Base64.encodeUrl signature] := by
  refine Text.pieces_joined (by decide) (by simp) fun t ht c hc => ?_
  obtain ⟨bs, -, rfl⟩ := List.mem_map.1 ht
  have hpoint := Base64.forall_mem_encodeUrl (p := fun c => c ≠ ('.' : CodePoint)) (by decide) c hc
  simpa using hpoint

theorem compact_ne_nil (header payload signature : Bytes) :
    compact header payload signature ≠ [] := by
  intro h
  have hpieces := pieces_compact header payload signature
  rw [h] at hpieces
  have hlength : (1 : Nat) = 3 := congrArg List.length hpieces
  exact absurd hlength (by decide)

theorem trim_compact (header payload signature : Bytes) :
    (compact header payload signature).trim = compact header payload signature := by
  refine Text.trim_of_none fun c hc => ?_
  have hblank := forall_mem_compact (p := fun c => !c.isBlank) (by decide) (by decide) c hc
  simpa using hblank

theorem segment_encodeUrl (fault : Fault) (bs : Bytes) :
    segment fault (Base64.encodeUrl bs) = .ok bs := by
  unfold segment
  rw [Base64.decodeStrictUrl?_encodeUrl]

/-- Taking a compact token apart gives its parts. -/
theorem parse_compact {header : Bytes} {members : List (Text × Json)} (payload signature : Bytes)
    (hheader : Json.ofBytes header = .ok (.obj members)) (hattached : isDetached members = false) :
    parse (compact header payload signature) =
      .ok ⟨members, payload, signature, signingInput header payload⟩ := by
  have hmembers : headerMembers (Base64.encodeUrl header) = .ok members := by
    unfold headerMembers
    rw [Base64.decodeStrictUrl?_encodeUrl]
    dsimp only
    rw [hheader]
  have hsegments : segments? (compact header payload signature) =
      some (Base64.encodeUrl header, Base64.encodeUrl payload, Base64.encodeUrl signature) := by
    unfold segments?
    rw [pieces_compact]
    rfl
  unfold parse
  rw [encodable_compact, if_neg Bool.false_ne_true, hsegments]
  dsimp only
  rw [hmembers, segment_encodeUrl, segment_encodeUrl]
  show (if (isDetached members && _) = true then _ else _) = _
  rw [hattached]
  rfl

/-- A header without key id and extensions, and with its payload attached, is in order. -/
theorem checkHeader_plain {t : SignedToken} (hid : t.parameter? "kid" = none)
    (hcritical : t.parameter? "crit" = none) (hattached : isDetached t.header = false) :
    checkHeader t = .ok () := by
  unfold checkHeader checkCritical
  rw [hid, hcritical, hattached]
  rfl

/-- A compact token whose signature is right is signed. -/
theorem isSigned_compact {p : Policy} {header payload signature : Bytes}
    {members : List (Text × Json)} {claims : ClaimSet} {key fitting : VerificationKey}
    {a : SigningAlgorithm} (hheader : Json.ofBytes header = .ok (.obj members))
    (hid : Json.field? members "kid" = none) (hcritical : Json.field? members "crit" = none)
    (hattached : isDetached members = false)
    (hnamed : Json.field? members "alg" = some (.str p.algorithm)) (hne : p.algorithm ≠ [])
    (hkey : policyKey p = .ok key) (ha : SigningAlgorithm.find? p.algorithm = some a)
    (hfit : a.fit key = .ok fitting)
    (hsignature : a.verifies fitting (Bytes.ofAscii (signingInput header payload)) signature = true)
    (hclaims : Json.ofBytes payload = .ok (.obj claims)) :
    IsSigned p (compact header payload signature) claims := by
  refine ⟨key, _, hkey, parse_compact payload signature hheader hattached,
    checkHeader_plain hid hcritical hattached, ?_, ?_⟩
  · exact checkSignature_eq_ok.2 ⟨a, fitting, hnamed, hne, ha, hfit, hsignature⟩
  · unfold SignedToken.claims
    rw [hclaims]

/-- The payload of an envelope that is a compact token is taken for that token. -/
theorem tokenOf?_compact (header payload signature : Bytes) :
    SessionRequest.tokenOf? (Bytes.ofAscii (compact header payload signature)) =
      some (compact header payload signature) := by
  have hascii := isAscii_compact header payload signature
  unfold SessionRequest.tokenOf?
  rw [if_pos (Bytes.all_lt_ofAscii hascii)]
  dsimp only
  rw [Bytes.toAscii_ofAscii hascii, trim_compact, pieces_compact]
  rfl

end SignedToken

end Issuance
