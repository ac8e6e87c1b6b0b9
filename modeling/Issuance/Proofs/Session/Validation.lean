import Issuance.Proofs.Signed.Verifier
import Issuance.Proofs.Text.Pieces
import Issuance.Session.Validation

/-!
# Issuance.Proofs.Session.Validation

**Which bodies make a session request, and which request they make.** A request passes six stages,
each of which rejects it or hands on what it has found. `SessionRequest.Pinned` says of a request
what all of them together have established: whose it is, where its token came from and how that
was verified, and which of its parts are the token's and which the registration's.
`validate_eq_ok_iff_pinned` says that a body is validated exactly where there is such a request.
-/

namespace Issuance

/-- A member of an object that is a text and not blank; what counts of it is the trimmed text. -/
def Json.HasText (v : Json) (name t : Text) : Prop :=
  ∃ stated, v.member name = .str stated ∧ stated.trim = t ∧ t ≠ []

/-! ### Registrations -/

namespace Client

theorem requiredMember_eq_ok {clientId : Text} {entry : Json} {name t : Text} :
    requiredMember clientId entry name = .ok t ↔ entry.HasText name t := by
  unfold requiredMember Json.HasText
  cases entry.member name with
  | str stated =>
    by_cases hblank : stated.trim = []
    · simp [hblank]
    · simp [hblank]
      grind
  | _ => simp

/-- A registration that is complete: the four members that must be there are, and the redirect URI
is taken over as it is stated. -/
structure Completes (c : Client) (clientId : Text) (entry : Json) : Prop where
  id : c.id = clientId
  issuer : entry.HasText "issuer" c.issuer
  audience : entry.HasText "audience" c.audience
  signingAlgorithm : entry.HasText "signingAlgorithm" c.signingAlgorithm
  keyMaterial : entry.HasText "publicSigningJwkBase64" c.keyMaterial
  redirectUri : c.redirectUri = (entry.member "redirectUri").text?

theorem ofEntry_eq_ok {clientId : Text} {entry : Json} {c : Client} :
    ofEntry clientId entry = .ok c ↔ c.Completes clientId entry := by
  constructor
  · intro h
    cases entry with
    | obj members =>
      simp only [ofEntry, bind_eq_ok, requiredMember_eq_ok, Except.ok.injEq] at h
      obtain ⟨issuer, hissuer, audience, haudience, algorithm, halgorithm, material, hmaterial,
        rfl⟩ := h
      exact ⟨rfl, hissuer, haudience, halgorithm, hmaterial, rfl⟩
    | _ => simp [ofEntry] at h
  · rintro ⟨hid, hissuer, haudience, halgorithm, hmaterial, hredirect⟩
    cases entry with
    | obj members =>
      simp only [ofEntry, bind_eq_ok, requiredMember_eq_ok, Except.ok.injEq]
      refine ⟨_, hissuer, _, haudience, _, halgorithm, _, hmaterial, ?_⟩
      rw [← hid, ← hredirect]
    | _ =>
      obtain ⟨stated, hstated, -⟩ := hissuer
      cases hstated

end Client

namespace Registry

/-- A client is registered: its complete registration is held, or what is held completes to it. -/
inductive Registers (r : Registry) (clientId : Text) (c : Client) : Prop
  | complete (held : Entries.get? clientId r.entries = some (.complete c))
  | stated (entry : Json) (held : Entries.get? clientId r.entries = some (.stated entry))
      (completes : c.Completes clientId entry)

/-- The client of an id that is trimmed already. -/
theorem client_eq_ok {r : Registry} {clientId : Text} {c : Client}
    (htrim : clientId.trim = clientId) (hne : clientId ≠ []) : r.client clientId = .ok c ↔ r.Registers clientId c := by
  have hempty : clientId.isEmpty = false := by simpa using hne
  have hnull : ∀ id, ¬ c.Completes id .null := by
    rintro id ⟨-, ⟨stated, hstated, -⟩, -⟩
    cases hstated
  simp only [client, htrim, hempty, Bool.false_eq_true, if_false]
  constructor
  · intro h
    cases hheld : Entries.get? clientId r.entries with
    | none => simp [hheld] at h
    | some registration =>
      cases registration with
      | complete held =>
        simp only [hheld, Except.ok.injEq] at h
        exact .complete (by rw [hheld, h])
      | stated entry =>
        refine .stated entry hheld (Client.ofEntry_eq_ok.1 ?_)
        cases entry <;> simp_all
  · intro h
    cases h with
    | complete held => simp [held]
    | stated entry held completes =>
      have hentry := Client.ofEntry_eq_ok.2 completes
      cases entry with
      | null => exact absurd completes (hnull clientId)
      | _ => simp [held, hentry]

end Registry

namespace SessionRequest

/-! ### The stages -/

theorem outerMember_eq_ok {v : Json} {name t : Text} :
    outerMember v name = .ok t ↔ v.HasText name t := by
  unfold outerMember Json.HasText
  cases v.member name with
  | str stated =>
    by_cases hblank : stated.trim = []
    · simp [hblank]
    · simp [hblank]
      grind
  | _ => simp

theorem outer_eq_ok {v : Json} {o : Outer} :
    outer v = .ok o ↔ v.HasText "client_id" o.clientId ∧ v.HasText "request" o.envelope := by
  simp only [outer, bind_eq_ok, outerMember_eq_ok, Except.ok.injEq]
  constructor
  · rintro ⟨clientId, hclient, envelope, henvelope, rfl⟩
    exact ⟨hclient, henvelope⟩
  · rintro ⟨hclient, henvelope⟩
    exact ⟨_, hclient, _, henvelope, rfl⟩

/-- A payload is a token in three parts: ASCII that has two points in it, apart from blanks at its
ends. -/
structure IsToken (payload : Bytes) (token : Text) : Prop where
  ascii : ∀ b ∈ payload, b < 0x80
  text : token = (Bytes.toAscii payload).trim
  parts : token.countP (fun c : CodePoint => c = '.') = 2

theorem tokenOf?_eq_some {payload : Bytes} {token : Text} :
    tokenOf? payload = some token ↔ IsToken payload token := by
  have hparts : ∀ t : Text, (Text.pieces (· = '.') t).length = 3 ↔
      t.countP (fun c : CodePoint => c = '.') = 2 := by
    intro t
    rw [Text.length_pieces]
    omega
  unfold tokenOf?
  simp only [hparts]
  constructor
  · intro h
    split at h
    · rename_i hascii
      split at h
      · rename_i hcount
        cases h
        exact ⟨by simpa using hascii, rfl, hcount⟩
      · cases h
    · cases h
  · rintro ⟨hascii, rfl, hcount⟩
    rw [if_pos (by simpa using hascii), if_pos hcount]

/-- The shared claims that a claim holds: none in `null`, and those that are read in all else. -/
inductive Holds : Json → Option SharedClaims → Prop
  | absent : Holds .null none
  | present {v : Json} {c : SharedClaims} (stated : v ≠ .null)
      (read : SharedClaims.read? v = some c) : Holds v (some c)

theorem readSharedClaims_eq_ok {sensitive : List Text} {v : Json} {c : Option SharedClaims} :
    readSharedClaims sensitive v = .ok c ↔ Holds v c := by
  by_cases hnull : v = .null
  · subst hnull
    simp only [readSharedClaims, Except.ok.injEq]
    constructor
    · rintro rfl
      exact .absent
    · intro h
      cases h with
      | absent => rfl
      | present stated _ => exact absurd rfl stated
  · have hparse : readSharedClaims sensitive v = .ok c ↔
        ∃ read, SharedClaims.read? v = some read ∧ some read = c := by
      cases v <;> simp only [readSharedClaims, SharedClaims.parse] <;> grind
    rw [hparse]
    constructor
    · rintro ⟨read, hread, rfl⟩
      exact .present hnull hread
    · intro h
      cases h with
      | absent => exact absurd rfl hnull
      | present _ read => exact ⟨_, read, rfl⟩

/-- A request is that of the claims of a client's token: the token names the client of the request,
and the registered redirect URI; all that the client states about the session is the token's. -/
structure OfClaims (client : Client) (claims : SignedToken.ClaimSet)
    (clientAddress : Option Text) (r : SessionRequest) : Prop where
  sameClient : r.tokenClientId = r.clientId
  tokenClient : SignedToken.claim claims "client_id" = .str r.tokenClientId
  registeredRedirect : client.redirectUri = some r.redirectUri
  tokenRedirect : SignedToken.claim claims "redirect_uri" = .str r.redirectUri
  subject : r.subject = SignedToken.claim claims "sub"
  state : r.state = SignedToken.claim claims "state"
  expiration : r.expiration = SignedToken.claim claims "exp"
  notBefore : r.notBefore = SignedToken.claim claims "nbf"
  evidence : r.evidence = EvidenceRequest.ofClaim? (SignedToken.claim claims "evidence_requested")
  sharedClaims : Holds (SignedToken.claim claims "shared_claims") r.sharedClaims
  audience : r.audience = SignedToken.claim claims "aud"
  issuer : r.issuer = SignedToken.claim claims "iss"
  responseType : r.responseType = SignedToken.claim claims "response_type"
  persistentSessionId :
    r.persistentSessionId = SignedToken.claim claims "persistent_session_id"
  clientSessionId : r.clientSessionId = SignedToken.claim claims "govuk_signin_journey_id"
  context : r.context = SignedToken.claim claims "context"
  clientAddress : r.clientAddress = clientAddress

theorem ofClaims_eq_ok {sensitive : List Text} {clientId : Text} {client : Client}
    {claims : SignedToken.ClaimSet} {clientAddress : Option Text} {r : SessionRequest} :
    ofClaims sensitive clientId client claims clientAddress = .ok r ↔
      r.clientId = clientId ∧ OfClaims client claims clientAddress r := by
  unfold ofClaims
  constructor
  · intro h
    by_cases hclient : SignedToken.claim claims "client_id" = .str clientId
    · by_cases hredirect : SignedToken.claim claims "redirect_uri" = Json.ofText? client.redirectUri
      · cases hregistered : client.redirectUri with
        | none => simp [hclient, hredirect, hregistered] at h
        | some redirectUri =>
          rw [hregistered] at hredirect
          simp only [hclient, hredirect, hregistered, ne_eq, not_true_eq_false, if_false,
            bind_eq_ok, readSharedClaims_eq_ok, Except.ok.injEq] at h
          obtain ⟨sharedClaims, hshared, rfl⟩ := h
          exact ⟨rfl, rfl, hclient, hregistered, hredirect, rfl, rfl, rfl, rfl, rfl, hshared, rfl,
            rfl, rfl, rfl, rfl, rfl, rfl⟩
      · simp [hclient, hredirect, bind, Except.bind] at h
    · simp [hclient, bind, Except.bind] at h
  · rintro ⟨rfl, h⟩
    have hclient : SignedToken.claim claims "client_id" = .str r.clientId := by
      rw [h.tokenClient, h.sameClient]
    simp only [hclient, h.registeredRedirect, h.tokenRedirect, Json.ofText?, ne_eq,
      not_true_eq_false, if_false, bind_eq_ok, readSharedClaims_eq_ok, Except.ok.injEq]
    refine ⟨r.sharedClaims, h.sharedClaims, ?_⟩
    obtain ⟨hsame, -, -, -, hsubject, hstate, hexp, hnbf, hevidence, -, haud, hiss, htype, hsession,
      hjourney, hcontext, haddress⟩ := h
    cases r
    simp_all

namespace Validator

/-- A request is pinned to a document and to a registration. Its client is the one that the document
names, and has a complete registration; the payload of the document's envelope is a token in three
parts, accepted under the registered key and algorithm from the registered issuer for the registered
audience, in which no required claim is vacant; and all else is as the claims of that token say. -/
structure Pinned (v : Validator) (registry : Registry) (now : Int) (document : Json)
    (clientAddress : Option Text) (r : SessionRequest) (payload : Bytes) (token : Text)
    (client : Client) (claims : SignedToken.ClaimSet) : Prop where
  named : document.HasText "client_id" r.clientId
  opened : ∃ envelope, document.HasText "request" envelope ∧
    (v.decrypter.decryptCompact v.keyService envelope).result = .ok payload
  isToken : IsToken payload token
  registered : registry.Registers r.clientId client
  verified : SignedToken.verify now
    { algorithm := client.signingAlgorithm
      material := client.keyMaterial
      required := ["exp", "nbf", "sub", "state"]
      audience := some client.audience
      issuer := some client.issuer
      subject := none } token = .ok claims
  filled : ∀ name ∈ (["exp", "nbf", "sub", "state"] : List Text),
    (SignedToken.claim claims name).isVacant = false
  ofClaims : OfClaims client claims clientAddress r

/-- What a document makes a request of, stage by stage. -/
theorem validateDocument_eq_ok {v : Validator} {registry : Registry} {now : Int} {document : Json}
    {clientAddress : Option Text} {r : SessionRequest} :
    (v.validateDocument registry now document clientAddress).result = .ok r ↔
      ∃ o payload token client claims, outer document = .ok o ∧
        (v.decrypter.decryptCompact v.keyService o.envelope).result = .ok payload ∧
        tokenOf? payload = some token ∧ registry.client o.clientId = .ok client ∧
        SignedToken.verify now (tokenPolicy client) token = .ok claims ∧
        SessionRequest.ofClaims v.sensitiveFields o.clientId client claims clientAddress =
          .ok r := by
  unfold validateDocument
  cases houter : outer document with
  | error f => simp
  | ok o =>
    dsimp only
    cases hopened : (v.decrypter.decryptCompact v.keyService o.envelope).result with
    | error f => simp [hopened]
    | ok payload =>
      unfold ofPayload
      cases htoken : tokenOf? payload with
      | none => simp [hopened, htoken]
      | some token =>
        cases hclient : registry.client o.clientId with
        | error f => simp [hopened, htoken, hclient]
        | ok client =>
          cases hverified : SignedToken.verify now (tokenPolicy client) token with
          | error f => simp [hopened, htoken, hclient, hverified]
          | ok claims => simp [hopened, htoken, hclient, hverified]

/-- A document is validated exactly where its request is pinned. -/
theorem validateDocument_eq_ok_iff_pinned {v : Validator} {registry : Registry} {now : Int}
    {document : Json} {clientAddress : Option Text} {r : SessionRequest} :
    (v.validateDocument registry now document clientAddress).result = .ok r ↔
      ∃ payload token client claims,
        v.Pinned registry now document clientAddress r payload token client claims := by
  -- a client id is trimmed when it is read from the document, so the registry finds it as it is
  have htrimmed : ∀ {name t : Text}, document.HasText name t → t.trim = t ∧ t ≠ [] := by
    rintro name t ⟨stated, -, rfl, hne⟩
    exact ⟨Text.trim_trim stated, hne⟩
  rw [validateDocument_eq_ok]
  constructor
  · rintro ⟨o, payload, token, client, claims, houter, hopened, htoken, hclient, hverified, hr⟩
    obtain ⟨hnamed, henvelope⟩ := outer_eq_ok.1 houter
    obtain ⟨hid, hclaims⟩ := ofClaims_eq_ok.1 hr
    obtain ⟨-, _, _, -, -, -, -, -, hchecked⟩ := SignedToken.verify_eq_ok.1 hverified
    obtain ⟨-, -, -, -, -, hfilled, -, -⟩ := SignedToken.checkClaims_eq_ok.1 hchecked
    refine ⟨payload, token, client, claims, by rwa [hid], ⟨o.envelope, henvelope, hopened⟩,
      tokenOf?_eq_some.1 htoken, ?_, hverified, SignedToken.checkFilled_eq_ok.1 hfilled, hclaims⟩
    obtain ⟨htrim, hne⟩ := htrimmed hnamed
    rw [hid]
    exact (Registry.client_eq_ok htrim hne).1 hclient
  · rintro ⟨payload, token, client, claims, h⟩
    obtain ⟨envelope, henvelope, hopened⟩ := h.opened
    obtain ⟨htrim, hne⟩ := htrimmed h.named
    exact ⟨⟨r.clientId, envelope⟩, payload, token, client, claims,
      outer_eq_ok.2 ⟨h.named, henvelope⟩, hopened, tokenOf?_eq_some.2 h.isToken,
      (Registry.client_eq_ok htrim hne).2 h.registered, h.verified,
      ofClaims_eq_ok.2 ⟨rfl, h.ofClaims⟩⟩

/-- **A validated request is pinned to its token and to its client's registration, and what is so
pinned is validated.** This holds of a body that is still to be read as JSON and of one that has
been read already, whatever the registrations, the keys and the time. -/
theorem validate_eq_ok_iff_pinned (v : Validator) (registry : Registry) (now : Int)
    (clientAddress : Option Text) (r : SessionRequest) :
    (∀ body, (v.validate registry now body clientAddress).result = .ok r ↔
      ∃ document payload token client claims, SessionRequest.document body = .ok document ∧
        v.Pinned registry now document clientAddress r payload token client claims) ∧
    ∀ document, (v.validateDocument registry now document clientAddress).result = .ok r ↔
      ∃ payload token client claims,
        v.Pinned registry now document clientAddress r payload token client claims := by
  refine ⟨fun body => ?_, fun document => validateDocument_eq_ok_iff_pinned⟩
  unfold validate
  cases hread : SessionRequest.document body with
  | error f => simp
  | ok document =>
    dsimp only
    rw [validateDocument_eq_ok_iff_pinned]
    simp

end Validator

end SessionRequest

end Issuance
