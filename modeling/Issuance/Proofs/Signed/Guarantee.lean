import Issuance.Proofs.Bytes.Alphabet
import Issuance.Proofs.Key.Fit
import Issuance.Proofs.Service.Journey

/-!
# Issuance.Proofs.Signed.Guarantee

**What an accepted token is.** Three parties name an algorithm: the policy, the header of the token,
and the registered key, which may come with a name of its own. Only the policy decides. The header
must name the policy's algorithm, and whatever the key was made for, the algorithm takes from it a
key of its own kind or none (`takes_of_fit`); "none" takes no key at all, and a keyed hash takes no
secret that is a key in writing. So the signature of an accepted token is right under the policy's
algorithm and key, over the two segments as they were received (`guarantee_of_verify`).
-/

namespace Issuance

namespace SignedToken

/-! ### Segments -/

/-- The segments of a token in writing. -/
structure Segments where
  header : Text
  payload : Text
  signature : Text

namespace Segments

/-- What the signature covers. -/
def signed (s : Segments) : Text := s.header ++ "." ++ s.payload

/-- The token in writing. -/
def text (s : Segments) : Text := s.signed ++ "." ++ s.signature

end Segments

/-- A segment is an object in JSON with these members. -/
def IsObject (segment : Text) (members : List (Text × Json)) : Prop :=
  ∃ bs, Base64.decodeStrictUrl? segment = some bs ∧ Json.ofBytes bs = .ok (.obj members)

/-- The segments of a token are what it was joined from. -/
theorem segments?_eq_some {token header payload signature : Text}
    (h : segments? token = some (header, payload, signature)) :
    token = (Segments.mk header payload signature).text := by
  have hjoined : Text.joined "." (Text.pieces (· = '.') token) = token :=
    Text.joined_pieces (fun _ hc => of_decide_eq_true hc) token
  unfold segments? at h
  split at h
  · rename_i first second rest hpieces
    split at h
    · cases h
    · rename_i last hlast
      cases h
      have hrest : second :: rest = second :: rest.dropLast ++ [signature] := by
        rw [List.cons_append, List.dropLast_append_getLast? signature hlast]
      rw [hpieces, Text.joined, hrest, Text.joined_concat _ (List.cons_ne_nil _ _)] at hjoined
      rw [← hjoined]
      unfold Segments.text Segments.signed
      simp only [List.append_assoc]
  · cases h

theorem headerMembers_eq_ok {segment : Text} {members : List (Text × Json)} :
    headerMembers segment = .ok members ↔ IsObject segment members := by
  unfold headerMembers IsObject
  cases Base64.decodeStrictUrl? segment with
  | none => simp
  | some bs =>
    cases hv : Json.ofBytes bs with
    | error f => simp [hv]
    | ok v => cases v <;> simp [hv]

theorem segment_eq_ok {fault : Fault} {t : Text} {bs : Bytes} :
    segment fault t = .ok bs ↔ Base64.decodeStrictUrl? t = some bs := by
  unfold segment
  cases Base64.decodeStrictUrl? t <;> simp

/-- What a token is taken apart into stands in its segments. -/
theorem parse_eq_ok {token : Text} {t : SignedToken} (h : parse token = .ok t) :
    ∃ s : Segments, token = s.text ∧ t.signed = s.signed ∧ IsObject s.header t.header ∧
      Base64.decodeStrictUrl? s.payload = some t.payload ∧
      Base64.decodeStrictUrl? s.signature = some t.signature := by
  unfold parse at h
  split at h
  · cases h
  · split at h
    · cases h
    · rename_i header payload signature hsegments
      obtain ⟨members, hmembers, h⟩ := bind_eq_ok.1 h
      dsimp only at h
      split at h
      · cases h
      · obtain ⟨payloadBytes, hpayload, h⟩ := bind_eq_ok.1 h
        obtain ⟨signatureBytes, hsignature, h⟩ := bind_eq_ok.1 h
        cases h
        exact ⟨⟨header, payload, signature⟩, segments?_eq_some hsegments, rfl,
          headerMembers_eq_ok.1 hmembers, segment_eq_ok.1 hpayload, segment_eq_ok.1 hsignature⟩

/-! ### The guarantee -/

/-- A signature of a message is right under the algorithm and the key of a policy. -/
structure Policy.Endorses (p : Policy) (a : SigningAlgorithm) (key fitting : VerificationKey)
    (message signature : Bytes) : Prop where
  found : SigningAlgorithm.find? p.algorithm = some a
  /-- The key is what the material gives, -/
  loads : VerificationKey.ofMaterial p.material p.algorithm = .ok key
  /-- and the algorithm verifies with what it takes from it, -/
  fits : a.fit key = .ok fitting
  /-- which is of the algorithm's own kind. -/
  kind : a.scheme.Takes fitting
  /-- A secret is the key itself, and no key in writing. -/
  secret : ∀ bs, fitting = .secret bs →
    key = .secret bs ∧ Secret.isWrittenKey bs = false ∧ Secret.isJwk bs = false
  right : a.verifies fitting message signature = true

/-- What an accepted token is, and what its claims say. -/
structure Guarantee (p : Policy) (token : Text) (claims : ClaimSet) (s : Segments) : Prop where
  received : token = s.text
  /-- There is no point in a segment, nor anything else that is not Base64. -/
  alphabet : ∀ c ∈ s.header ++ s.payload ++ s.signature, Base64.isUrlChar c = true ∨ c.value = 0x3D
  header : ∃ members, IsObject s.header members ∧
    Json.field? members "alg" = some (.str p.algorithm)
  algorithm : p.algorithm ≠ "none"
  payload : IsObject s.payload claims
  /-- The signature covers the two segments as they were received. -/
  signature : ∃ a key fitting message signature, Bytes.ofAscii? s.signed = some message ∧
    Base64.decodeStrictUrl? s.signature = some signature ∧
    p.Endorses a key fitting message signature
  required : ∀ name ∈ p.required, ∃ v, Json.field? claims name = some v ∧ v.isVacant = false
  issuer : ∀ expected, p.issuer = some expected → claim claims "iss" = .str expected
  audience : ∀ expected, p.audience = some expected → Addresses claims expected
  subject : ∀ expected, p.subject = some expected → claim claims "sub" = .str expected

theorem endorses_of_checkSignature {p : Policy} {key : VerificationKey} {t : SignedToken}
    (loads : policyKey p = .ok key) (h : checkSignature p key t = .ok ()) :
    t.parameter? "alg" = some (.str p.algorithm) ∧ p.algorithm ≠ "none" ∧
      ∃ a fitting, p.Endorses a key fitting t.signedBytes t.signature := by
  obtain ⟨a, fitting, hnamed, -, hfound, hfits, hverifies⟩ := checkSignature_eq_ok.1 h
  have hmaterial : VerificationKey.ofMaterial p.material p.algorithm = .ok key := by
    unfold policyKey at loads
    split at loads
    · rename_i hmaterial
      rw [hmaterial, Except.ok.inj loads]
    · cases loads
  refine ⟨hnamed, SigningAlgorithm.ne_none_of_fit hfound hfits, a, fitting, hfound, hmaterial,
    hfits, SigningAlgorithm.takes_of_fit hfits, ?_, hverifies⟩
  rintro bs rfl
  exact SigningAlgorithm.secret_of_fit hfits

/-- Segments that are read have no character but those of Base64, all of which are ASCII. -/
theorem alphabet_of_segments {s : Segments} {members : List (Text × Json)}
    {payload signature : Bytes} (header : IsObject s.header members)
    (hpayload : Base64.decodeStrictUrl? s.payload = some payload)
    (hsignature : Base64.decodeStrictUrl? s.signature = some signature) :
    ∀ c ∈ s.header ++ s.payload ++ s.signature,
      Base64.isUrlChar c = true ∨ c.value = 0x3D := by
  obtain ⟨bs, hheader, -⟩ := header
  intro c hc
  rcases List.mem_append.1 hc with hc | hc
  · rcases List.mem_append.1 hc with hc | hc
    · exact Base64.mem_of_decodeStrictUrl? hheader c hc
    · exact Base64.mem_of_decodeStrictUrl? hpayload c hc
  · exact Base64.mem_of_decodeStrictUrl? hsignature c hc

theorem isAscii_signed {s : Segments}
    (h : ∀ c ∈ s.header ++ s.payload ++ s.signature, Base64.isUrlChar c = true ∨ c.value = 0x3D) :
    s.signed.isAscii = true := by
  refine Text.isAscii_iff.2 fun c hc => ?_
  have hsegments : c ∈ s.header ++ s.payload ++ s.signature ∨ c = ('.' : CodePoint) := by
    simp only [Segments.signed, List.mem_append] at hc ⊢
    rcases hc with (hc | hc) | hc
    · exact Or.inl (Or.inl (Or.inl hc))
    · exact Or.inr (List.mem_singleton.1 hc)
    · exact Or.inl (Or.inl (Or.inr hc))
  rcases hsegments with hc | rfl
  · rcases h c hc with hurl | hpadding
    · exact Base64.isAscii_of_isUrlChar hurl
    · exact decide_eq_true (by omega)
  · decide

/-- **Nothing in a token chooses how it is verified.** An accepted token consists of three segments,
the header names the algorithm of the policy, which is not "none", and the signature is right under
this algorithm and the key of the policy, for the two segments as they were received. The claims are
those of the payload, nothing that is required is absent or empty, and issuer, audience and subject
are the expected ones. -/
theorem guarantee_of_verify {now : Int} {p : Policy} {token : Text} {claims : ClaimSet}
    (h : verify now p token = .ok claims) : p.required ≠ [] ∧ ∃ s, Guarantee p token claims s := by
  obtain ⟨hrequired, key, t, hkey, hparse, -, hsignature, hclaims, hcheck⟩ := verify_eq_ok.1 h
  obtain ⟨s, htoken, hsigned, hheader, hpayload, hsegment⟩ := parse_eq_ok hparse
  obtain ⟨hnamed, hnone, a, fitting, hendorses⟩ := endorses_of_checkSignature hkey hsignature
  obtain ⟨-, hissuer, haudience, -, -, hfilled, -, hsubject⟩ := checkClaims_eq_ok.1 hcheck
  have halphabet := alphabet_of_segments hheader hpayload hsegment
  refine ⟨hrequired, s, htoken, halphabet, ⟨t.header, hheader, hnamed⟩, hnone, ?payload, ?signature,
    ?required, ?issuer, ?audience, ?subject⟩
  case payload =>
    unfold SignedToken.claims at hclaims
    split at hclaims
    · cases hclaims
    · rename_i hjson
      cases hclaims
      exact ⟨t.payload, hpayload, hjson⟩
    · cases hclaims
  case signature =>
    refine ⟨a, key, fitting, t.signedBytes, t.signature, ?_, hsegment, hendorses⟩
    rw [signedBytes, hsigned]
    exact Bytes.ofAscii?_of_isAscii (isAscii_signed halphabet)
  case required =>
    intro name hname
    have hvacant := checkFilled_eq_ok.1 hfilled name hname
    refine ⟨claim claims name, field?_of_ne_null fun hnull => ?_, hvacant⟩
    rw [hnull] at hvacant
    cases hvacant
  case issuer =>
    intro expected hexpected
    rw [hexpected] at hissuer
    exact checkIssuer_some.1 hissuer
  case audience =>
    intro expected hexpected
    rw [hexpected] at haudience
    exact addresses_of_checkAudience haudience
  case subject =>
    intro expected hexpected
    rw [hexpected] at hsubject
    exact checkSubject_some.1 hsubject

end SignedToken

namespace Issuer

namespace OneClient

open SignedToken

/-- What the client asserts about itself is accepted, and so it is what it should be. -/
theorem guarantee_assertion :
    verify 5 (TokenRequest.assertionPolicy client "c") (signed assertionPayload) =
        .ok assertionClaims ∧
      (TokenRequest.assertionPolicy client "c").required ≠ [] ∧
      ∃ s, Guarantee (TokenRequest.assertionPolicy client "c") (signed assertionPayload)
        assertionClaims s :=
  ⟨verify_assertion, guarantee_of_verify verify_assertion⟩

end OneClient

end Issuer

end Issuance
