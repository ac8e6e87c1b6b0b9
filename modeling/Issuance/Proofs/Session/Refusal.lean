import Issuance.Proofs.Envelope.Refusal
import Issuance.Proofs.Service.Journey
import Issuance.Proofs.Session.Validation
import Issuance.Proofs.Signed.Refusal

/-!
# Issuance.Proofs.Session.Refusal

**What becomes of a request that is refused.** A refusal is tagged: it is the caller's fault, or
that of a registry without a complete registration of the client. Whatever the body and the key
service, only one failure is neither: a header's segment that ends in a blank which is not ASCII is
decoded, but cannot be covered by a tag (`validate_tagged_iff`, `foreign_blank_is_not_tagged`).
-/

namespace Issuance

/-! ### Registrations -/

/-- The key material of a client loads to a key that its algorithm takes. -/
def Client.IsVerifiable (c : Client) : Prop :=
  ∃ key a fitting, VerificationKey.ofMaterial c.keyMaterial c.signingAlgorithm = .ok key ∧
    SigningAlgorithm.find? c.signingAlgorithm = some a ∧ a.fit key = .ok fitting

namespace Registry

/-- Every complete registration is that of a client whose tokens can be verified. -/
def IsUsable (r : Registry) : Prop := ∀ clientId c, r.Registers clientId c → c.IsVerifiable

/-- A client that is not found has no complete registration. -/
theorem not_registers_of_client {r : Registry} {clientId : Text} {f : Client.Fault}
    (htrim : clientId.trim = clientId) (hne : clientId ≠ []) (h : r.client clientId = .error f) :
    ¬ ∃ c, r.Registers clientId c := by
  rintro ⟨c, hc⟩
  rw [(client_eq_ok htrim hne).2 hc] at h
  cases h

end Registry

namespace SessionRequest

/-! ### Tagged refusals -/

/-- The request is refused as invalid. -/
def Fault.IsRefusal (f : Fault) : Prop :=
  ∃ report, f.failure = .fault report ∧ report.kind = .sessionValidation

/-- The client's registration is reported, and there is no complete one of a client that is
named. -/
def Fault.IsMisconfiguration (registry : Registry) (named : Text → Prop) (f : Fault) : Prop :=
  ∃ report, f.failure = .fault report ∧ report.kind = .clientConfiguration ∧
    ∃ clientId, named clientId ∧ ¬ ∃ c, registry.Registers clientId c

/-- A validation gives a request or a refusal with a tag: the request is invalid, or its client has
no complete registration. -/
def IsTagged (registry : Registry) (named : Text → Prop)
    (result : Except Fault SessionRequest) : Prop :=
  FailsOnly (fun f => f.IsRefusal ∨ f.IsMisconfiguration registry named) result

theorem not_isTagged_unprovided (registry : Registry) (named : Text → Prop) :
    ¬ IsTagged registry named (.error .unprovided) := by
  intro h
  rcases h .unprovided rfl with ⟨report, hreport, -⟩ | ⟨report, hreport, -⟩
  · cases hreport
  · cases hreport

/-- The token in a payload is ASCII. -/
theorem IsToken.encodable {payload : Bytes} {token : Text} (h : IsToken payload token) :
    token.any CodePoint.isSurrogate = false := by
  have hbyte : ∀ n < 256, (CodePoint.ofNat n).isSurrogate = false := by decide +kernel
  rw [List.any_eq_false]
  intro c hc
  rw [h.text] at hc
  obtain ⟨b, -, rfl⟩ := List.mem_map.1 (Text.mem_of_mem_trim hc)
  rw [hbyte b.toNat b.toNat_lt]
  exact Bool.false_ne_true

theorem isRefusal_ofTokenFault {f : SignedToken.Fault} (h : f.IsReported) :
    (ofTokenFault f).IsRefusal := by
  obtain ⟨report, hreport, -⟩ := h
  unfold ofTokenFault
  rw [hreport]
  exact ⟨_, rfl, rfl⟩

theorem isRefusal_ofEnvelopeFault {f : Envelope.Fault} (h : f ≠ .headerNotAscii) :
    (ofEnvelopeFault f).IsRefusal := by
  obtain ⟨report, hreport⟩ := Envelope.Fault.exists_report h
  unfold ofEnvelopeFault
  rw [hreport]
  exact ⟨_, rfl, rfl⟩

theorem refused_readSharedClaims (sensitive : List Text) (v : Json) :
    FailsOnly Fault.IsRefusal (readSharedClaims sensitive v) := by
  unfold readSharedClaims
  split
  · exact .ok none
  · split
    · exact .ok _
    · exact .error ⟨_, rfl, rfl⟩

/-- Claims that are not pinned to the client are refused. -/
theorem refused_ofClaims (sensitive : List Text) (clientId : Text) (c : Client)
    (claims : SignedToken.ClaimSet) (clientAddress : Option Text) :
    FailsOnly Fault.IsRefusal (ofClaims sensitive clientId c claims clientAddress) := by
  unfold ofClaims
  dsimp only
  split
  · exact .error ⟨_, rfl, rfl⟩
  · split
    · exact .error ⟨_, rfl, rfl⟩
    · split
      · exact .error ⟨_, rfl, rfl⟩
      · exact (refused_readSharedClaims sensitive _).bind fun _ _ => .ok _

namespace Validator

variable {v : Validator} {registry : Registry} {now : Int}

/-- Once the envelope is opened, all failures are tagged. -/
theorem isTagged_ofPayload (usable : registry.IsUsable) {named : Text → Prop} {clientId : Text}
    (hnamed : named clientId) (htrim : clientId.trim = clientId) (hne : clientId ≠ [])
    (payload : Bytes) (clientAddress : Option Text) :
    IsTagged registry named (v.ofPayload registry now clientId payload clientAddress) := by
  unfold ofPayload
  cases htoken : tokenOf? payload with
  | none => exact .error (Or.inl ⟨_, rfl, rfl⟩)
  | some token =>
    dsimp only
    cases hclient : registry.client clientId with
    | error f =>
      exact .error (Or.inr ⟨_, rfl, by cases f <;> rfl, clientId, hnamed,
        Registry.not_registers_of_client htrim hne hclient⟩)
    | ok c =>
      obtain ⟨key, a, fitting, loads, found, fits⟩ :=
        usable clientId c ((Registry.client_eq_ok htrim hne).1 hclient)
      have hreported := SignedToken.reported_verify (p := tokenPolicy c) loads found fits
        (tokenOf?_eq_some.1 htoken).encodable now
      dsimp only
      cases hverified : SignedToken.verify now (tokenPolicy c) token with
      | error f => exact .error (Or.inl (isRefusal_ofTokenFault (hreported f hverified)))
      | ok claims => exact fun f hf => Or.inl (refused_ofClaims _ _ _ _ _ f hf)

/-- The envelope of a document is in order up to its content key, but its header's segment is not
ASCII. -/
def MeetsForeignHeader (v : Validator) (document : Json) : Prop :=
  ∃ o, outer document = .ok o ∧ v.decrypter.MeetsForeignHeader v.keyService o.envelope

theorem validateDocument_tagged_iff (usable : registry.IsUsable) {named : Text → Prop}
    {document : Json} (hnamed : ∀ clientId, document.HasText "client_id" clientId → named clientId)
    (clientAddress : Option Text) :
    IsTagged registry named (v.validateDocument registry now document clientAddress).result ↔
      ¬ v.MeetsForeignHeader document := by
  unfold validateDocument MeetsForeignHeader
  cases houter : outer document with
  | error f => exact iff_of_true (.error (Or.inl ⟨_, rfl, rfl⟩)) (by simp)
  | ok o =>
    have hmeets : (∃ o', Except.ok o = Except.ok (ε := BodyFault) o' ∧
        v.decrypter.MeetsForeignHeader v.keyService o'.envelope) ↔
          (v.decrypter.decryptCompact v.keyService o.envelope).result =
            .error .headerNotAscii := by
      rw [Envelope.Decrypter.decryptCompact_eq_headerNotAscii]
      simp
    rw [hmeets]
    dsimp only
    cases hopened : (v.decrypter.decryptCompact v.keyService o.envelope).result with
    | error f =>
      dsimp only
      rw [Except.error.injEq]
      by_cases hf : f = .headerNotAscii
      · subst hf
        exact iff_of_false (not_isTagged_unprovided registry named) (fun h => h rfl)
      · exact iff_of_true (.error (Or.inl (isRefusal_ofEnvelopeFault hf))) hf
    | ok payload =>
      obtain ⟨stated, hstated, htrim, hne⟩ := (outer_eq_ok.1 houter).1
      exact iff_of_true (isTagged_ofPayload usable (hnamed _ ⟨stated, hstated, htrim, hne⟩)
        (htrim ▸ Text.trim_trim stated) hne payload clientAddress) (fun h => nomatch h)

/-- **Every refusal is tagged, unless the envelope's header ends in a foreign blank.** Where the
tokens of all registered clients can be verified, the validation of a body, whether it is still to
be read or has been read, gives a request, says that the request is invalid, or says that the client
named in it has no complete registration; but not where the envelope is in order up to its content
key and the segment of its header is not ASCII. -/
theorem validate_tagged_iff (v : Validator) (registry : Registry) (usable : registry.IsUsable)
    (now : Int) (clientAddress : Option Text) :
    (∀ body, IsTagged registry
      (fun clientId => ∃ document, SessionRequest.document body = .ok document ∧
        document.HasText "client_id" clientId)
      (v.validate registry now body clientAddress).result ↔
        ¬ ∃ document, SessionRequest.document body = .ok document ∧
          v.MeetsForeignHeader document) ∧
    ∀ document, IsTagged registry (document.HasText "client_id")
      (v.validateDocument registry now document clientAddress).result ↔
        ¬ v.MeetsForeignHeader document := by
  refine ⟨fun body => ?_, fun document =>
    validateDocument_tagged_iff usable (fun _ h => h) clientAddress⟩
  unfold validate
  cases hread : SessionRequest.document body with
  | error f => exact iff_of_true (.error (Or.inl ⟨_, rfl, rfl⟩)) (by simp)
  | ok document =>
    dsimp only
    rw [validateDocument_tagged_iff usable (fun clientId h => ⟨document, rfl, h⟩)]
    simp

end Validator

end SessionRequest

namespace Issuer

namespace OneClient

open SessionRequest

theorem registry_isUsable : registry.IsUsable := by
  have hverifiable : client.IsVerifiable :=
    ⟨.secret [1], ⟨"HS256", .secret, .sha256⟩, .secret [1], eq_ok_of_toOption (by decide +kernel),
      rfl, eq_ok_of_toOption (by decide +kernel)⟩
  intro clientId c h
  cases h with
  | complete held =>
    have hmem := Entries.mem_of_get? held
    simp only [registry, List.mem_singleton, Prod.mk.injEq, Registration.complete.injEq] at hmem
    rw [hmem.2]
    exact hverifiable
  | stated entry held completes =>
    have hmem := Entries.mem_of_get? held
    simp only [registry, List.mem_singleton, Prod.mk.injEq, reduceCtorEq, and_false] at hmem

/-- The claims of a request whose client is to be redirected to a place that is not registered. -/
def straying : SignedToken.ClaimSet :=
  [("iss", .str "c"), ("aud", .str "a"), ("sub", .str "s"), ("state", .str "t"),
    ("client_id", .str "c"), ("redirect_uri", .str "x"), ("exp", .int 9), ("nbf", .int 1)]

def strayingPayload : Bytes := Bytes.ofAscii
  ("\x7b\"iss\":\"c\",\"aud\":\"a\",\"sub\":\"s\",\"state\":\"t\"," ++
    "\"client_id\":\"c\",\"redirect_uri\":\"x\",\"exp\":9,\"nbf\":1\x7d" : Text)

/-- The request, signed by the client and sealed for the issuer. -/
def strayingBody : Payload :=
  .bytes (Bytes.ofAscii (bodyText "c" (sealed strayingPayload)))

/-- The envelope is opened and the token is verified before the claims are refused. -/
theorem validate_straying : (issuer.validator.validate registry 5 strayingBody none).result =
    .error (.redirectMismatch (.str "x") (some "r")) := by
  have hpayload : Json.ofBytes strayingPayload = .ok (.obj straying) :=
    Json.ofBytes_ascii (by decide +kernel) (by decide +kernel) (by decide +kernel)
  refine (validate_signed (.initial 5 registry) rfl rfl hpayload
    (eq_ok_of_toOption (by decide +kernel))).trans ?_
  rfl

/-- A request that is signed and sealed as it should be, but whose claims do not fit the
registration, is refused with a tag. -/
theorem straying_request_is_tagged : registry.IsUsable ∧
    (issuer.validator.validate registry 5 strayingBody none).result =
      .error (.redirectMismatch (.str "x") (some "r")) ∧
    IsTagged registry (fun clientId => ∃ document,
      SessionRequest.document strayingBody = .ok document ∧ document.HasText "client_id" clientId)
      (issuer.validator.validate registry 5 strayingBody none).result := by
  refine ⟨registry_isUsable, validate_straying, ((Validator.validate_tagged_iff issuer.validator
    registry registry_isUsable 5 none).1 strayingBody).2 ?_⟩
  rintro ⟨document, hdocument, o, houter, hmeets⟩
  obtain ⟨hread, hmembers⟩ :=
    outer_bodyText isWord_clientId (isWord_encrypt _ _ _ _ _ : IsWord (sealed strayingPayload))
  cases hdocument.symm.trans hread
  cases houter.symm.trans hmembers
  -- the envelope is opened, so its header is as it should be
  have hopened := Envelope.Decrypter.decryptCompact_eq_headerNotAscii.2 hmeets
  cases (decryptCompact_sealed strayingPayload).symm.trans hopened

/-- The header of an envelope, as it is written, and a no-break space. -/
def blankedHeader : Text := "eyJhbGciOiJSU0EtT0FFUC0yNTYiLCJlbmMiOiJBMjU2R0NNIn0\u00a0"

/-- A document with an envelope whose header this is. -/
def blanked : Json :=
  .obj [("client_id", .str "c"), ("request", .str (blankedHeader ++ ".AQ.AQ.AQ.AQ"))]

/-- The envelope is taken apart and its content key is unwrapped, and then nothing provides for
it. -/
theorem validateDocument_blanked :
    (issuer.validator.validateDocument registry 5 blanked none).result = .error .unprovided := by
  let members : List (Text × Json) := [("alg", .str "RSA-OAEP-256"), ("enc", .str "A256GCM")]
  have houter : outer blanked = .ok ⟨"c", blankedHeader ++ ".AQ.AQ.AQ.AQ"⟩ :=
    eq_ok_of_toOption (by decide +kernel)
  have hparse : Envelope.parse (blankedHeader ++ ".AQ.AQ.AQ.AQ") =
      .ok ⟨⟨members, blankedHeader⟩, some [1], some [1], [1], some [1]⟩ :=
    eq_ok_of_toOption (by decide +kernel)
  have hrequired : Envelope.Decrypter.requirements
      ⟨⟨members, blankedHeader⟩, some [1], some [1], [1], some [1]⟩ = .ok ([1], [1], [1]) :=
    eq_ok_of_toOption (by decide +kernel)
  have hopened : (issuer.validator.decrypter.decryptCompact issuer.validator.keyService
      (blankedHeader ++ ".AQ.AQ.AQ.AQ")).result = .error .headerNotAscii :=
    Envelope.Decrypter.decryptCompact_eq_headerNotAscii.2
      ⟨_, _, _, _, contentKey, hparse, hrequired, rfl, by decide⟩
  unfold Validator.validateDocument
  rw [houter]
  dsimp only
  rw [hopened]
  rfl

/-- **A blank that is not ASCII after the header leaves a refusal without a tag.** -/
theorem foreign_blank_is_not_tagged : registry.IsUsable ∧
    ¬ IsTagged registry (blanked.HasText "client_id")
      (issuer.validator.validateDocument registry 5 blanked none).result := by
  refine ⟨registry_isUsable, ?_⟩
  rw [validateDocument_blanked]
  exact not_isTagged_unprovided registry _

end OneClient

end Issuer

end Issuance
