import Issuance.Envelope.Decrypter
import Issuance.Proofs.Bytes.Base64
import Issuance.Proofs.Crypto.Gcm

/-!
# Issuance.Proofs.Envelope.RoundTrip

**What was sealed can be opened.** `Envelope.parse` gets back the parts that `Envelope.compact`
joined, and a decrypter that unwraps the content key gets back the payload of `Envelope.encrypt`.
-/

namespace Issuance

namespace Envelope

/-- The compact form has neither blanks nor points beside its own. -/
theorem pieces_compact (header wrappedKey initialValue cipherText tag : Bytes) :
    Text.pieces (· = '.') (compact header wrappedKey initialValue cipherText tag).trim =
      [header, wrappedKey, initialValue, cipherText, tag].map Base64.encodeUrl := by
  have hblank : ∀ c ∈ compact header wrappedKey initialValue cipherText tag,
      c.isBlank = false := by
    intro c hc
    rcases Text.mem_joined hc with hpoint | ⟨t, ht, hc⟩
    · rw [List.mem_singleton.1 hpoint]
      decide
    · obtain ⟨bs, -, rfl⟩ := List.mem_map.1 ht
      exact Base64.not_blank_of_mem_encodeUrl hc
  rw [Text.trim_of_none hblank]
  refine Text.pieces_joined (by decide) (by simp) fun t ht c hc => ?_
  obtain ⟨bs, -, rfl⟩ := List.mem_map.1 ht
  have hpoint := Base64.forall_mem_encodeUrl (p := fun c => c ≠ ('.' : CodePoint)) (by decide) c hc
  simpa using hpoint

theorem segment_encodeUrl (bs : Bytes) : segment (Base64.encodeUrl bs) = .ok bs := by
  unfold segment
  rw [Base64.decodeUrl?_encodeUrl]

theorem optionalSegment_encodeUrl {bs : Bytes} (h : bs ≠ []) :
    optionalSegment (Base64.encodeUrl bs) = .ok (some bs) := by
  unfold optionalSegment
  rw [if_neg, segment_encodeUrl]
  · rfl
  · rw [List.isEmpty_iff]
    exact Base64.encodeUrl_ne_nil h

theorem headerMembers_encodeUrl {header : Bytes} {text : Text} {members : List (Text × Json)}
    (htext : Utf8.decode? header = some text) (hread : Json.read? text = some (.obj members)) :
    headerMembers (Base64.encodeUrl header) = .ok members := by
  unfold headerMembers
  rw [segment_encodeUrl]
  dsimp only [Bind.bind, Except.bind]
  rw [htext]
  dsimp only
  rw [hread]

/-- Taking a compact form apart gives its parts. -/
theorem parse_compact {header wrappedKey initialValue tag : Bytes} {members : List (Text × Json)}
    (cipherText : Bytes)
    (hheader : headerMembers (Base64.encodeUrl header) = .ok members)
    (hkey : wrappedKey ≠ []) (hiv : initialValue ≠ []) (htag : tag ≠ []) :
    parse (compact header wrappedKey initialValue cipherText tag) =
      .ok ⟨⟨members, Base64.encodeUrl header⟩, some wrappedKey, some initialValue, cipherText,
        some tag⟩ := by
  unfold parse
  rw [pieces_compact]
  simp only [List.map_cons, List.map_nil]
  rw [hheader, optionalSegment_encodeUrl hkey, optionalSegment_encodeUrl hiv, segment_encodeUrl,
    optionalSegment_encodeUrl htag]
  rfl

/-- Encrypted content decrypts. -/
theorem decryptContent_encrypt {contentKey initialValue : Bytes} (hkey : contentKey.length = 32)
    (hiv : 8 ≤ initialValue.length ∧ initialValue.length ≤ 128) (additional payload : Bytes) :
    decryptContent contentKey initialValue
      (Gcm.encrypt contentKey initialValue additional payload).1
      (Gcm.encrypt contentKey initialValue additional payload).2 additional = .ok payload := by
  unfold decryptContent
  rw [if_neg (fun h => h hkey), if_neg (fun h => h (Gcm.length_tag hkey _ _ _)),
    if_neg (by omega), Gcm.decrypt?_encrypt hkey]

/-- **A decrypter that unwraps the content key opens what was sealed with it.** -/
theorem decryptCompact_encrypt {d : Decrypter} {service : KeyService}
    {header wrappedKey contentKey initialValue : Bytes} {text : Text}
    {members : List (Text × Json)} (payload : Bytes)
    (htext : Utf8.decode? header = some text) (hread : Json.read? text = some (.obj members))
    (halgorithm : (Json.obj members).member "alg" = .str supportedAlgorithm)
    (hmethod : (Json.obj members).member "enc" = .str supportedMethod)
    (hwrapped : wrappedKey ≠ [])
    (hunwrap : (d.unwrapContentKey service wrappedKey).result = .ok contentKey)
    (hkey : contentKey.length = 32)
    (hiv : 8 ≤ initialValue.length ∧ initialValue.length ≤ 128) :
    (d.decryptCompact service (encrypt header wrappedKey contentKey initialValue payload)).result =
        .ok payload ∧
      (d.decryptCompact service
        (encrypt header wrappedKey contentKey initialValue payload)).exhausted = false := by
  have htag : (Gcm.encrypt contentKey initialValue
      (Bytes.ofAscii (Base64.encodeUrl header)) payload).2 ≠ [] := by
    intro h
    have hlen := Gcm.length_tag hkey initialValue (Bytes.ofAscii (Base64.encodeUrl header)) payload
    rw [h] at hlen
    cases hlen
  have hivne : initialValue ≠ [] := by
    rintro rfl
    exact absurd hiv.1 (by decide)
  have hparse := parse_compact (Gcm.encrypt contentKey initialValue
    (Bytes.ofAscii (Base64.encodeUrl header)) payload).1
    (headerMembers_encodeUrl htext hread) hwrapped hivne htag
  have hrequired : ∀ cipherText tag, Decrypter.requirements
      ⟨⟨members, Base64.encodeUrl header⟩, some wrappedKey, some initialValue, cipherText,
        some tag⟩ = .ok (wrappedKey, initialValue, tag) :=
    fun _ _ => if_pos ⟨halgorithm, hmethod⟩
  have hadditional : Header.additional? ⟨members, Base64.encodeUrl header⟩ =
      some (Bytes.ofAscii (Base64.encodeUrl header)) :=
    Bytes.ofAscii?_of_isAscii (Base64.isAscii_encodeUrl header)
  unfold Decrypter.decryptCompact encrypt
  dsimp only
  rw [hparse]
  dsimp only
  unfold Decrypter.decrypt
  rw [hrequired]
  dsimp only
  rw [hunwrap]
  dsimp only
  rw [hadditional]
  exact ⟨decryptContent_encrypt hkey hiv _ _, rfl⟩

end Envelope

end Issuance
