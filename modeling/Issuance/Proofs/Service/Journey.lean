import Issuance.Proofs.Audit.Publish
import Issuance.Proofs.Envelope.RoundTrip
import Issuance.Proofs.Json.Document
import Issuance.Proofs.Service.Run
import Issuance.Proofs.Service.TokenForm
import Issuance.Proofs.Signed.Compact

/-!
# Issuance.Proofs.Service.Journey

**What an honest client gets.** A request that is written as the issuer reads it passes: the form
of an exchange is read back (`ofPayload_parameters`), and a token that is signed and sealed for
the issuer makes its session request (`validate_sealed`). Where the record is taken, a valid
request opens its session (`handle_session`), and a live session is given a code
(`handle_authorizationCode`).
-/

namespace Issuance

/-! ### The form of an exchange -/

namespace TokenRequest

/-- **The form of a request is read back.** -/
theorem ofPayload_parameters {r : TokenRequest}
    (values : ∀ t ∈ [r.code, r.redirectUri, r.clientAssertion], t ≠ [] ∧ t.IsScalar) :
    ofPayload (.bytes (Bytes.ofAscii (Form.encode r.parameters))) = .ok r := by
  have spelled := Form.spellsAll_encode r.parameters
  exact ofPayload_of_spellsAll values (List.forall_mem_nil _) (List.forall_mem_nil _)
    (by rw [List.append_nil]) spelled _
    (Or.inr ⟨_, rfl, Utf8.decode?_ascii spelled.isAscii⟩)

end TokenRequest

/-! ### The body of a request for a session -/

namespace SessionRequest

/-- A word: characters in ASCII that stand for themselves in a string, and no blanks. -/
structure IsWord (t : Text) : Prop where
  filled : t ≠ []
  plain : ∀ c ∈ t, Json.isPlain c = true
  ascii : ∀ c ∈ t, c.isAscii = true
  blank : ∀ c ∈ t, c.isBlank = false

/-- The body of a request for a session. -/
def bodyText (clientId envelope : Text) : Text :=
  Json.objectText [("client_id", clientId), ("request", envelope)]

theorem isPlainDocument_bodyText {clientId envelope : Text} (hclient : IsWord clientId)
    (henvelope : IsWord envelope) : Json.IsPlainDocument (bodyText clientId envelope) := by
  have hword : ∀ {t}, IsWord t → ∀ c ∈ t, c.isAscii = true ∧ c.value ≠ 0 := by
    intro t ht c hc
    have hplain := ht.plain c hc
    simp only [Json.isPlain, Bool.and_eq_true, decide_eq_true_eq] at hplain
    exact ⟨ht.ascii c hc, by omega⟩
  have happend : ∀ {s t : Text}, Json.IsPlainDocument s → Json.IsPlainDocument t →
      Json.IsPlainDocument (s ++ t) := by
    intro s t hs ht c hc
    exact (List.mem_append.1 hc).elim (hs c) (ht c)
  have hopen : Json.IsPlainDocument (("\x7b\"client_id\":\"" : Text)) := by decide
  have hmiddle : Json.IsPlainDocument (("\",\"request\":\"" : Text)) := by decide
  have hclose : Json.IsPlainDocument (("\"\x7d" : Text)) := by decide
  -- the body as it is on the page, two words between fixed texts
  have htext : bodyText clientId envelope =
      ("\x7b\"client_id\":\"" : Text) ++ (clientId ++ (("\",\"request\":\"" : Text) ++
        (envelope ++ ("\"\x7d" : Text)))) := by
    unfold bodyText Json.objectText Json.memberText
    simp only [List.map_cons, List.map_nil, Text.joined, List.cons_append, List.append_assoc]
    rfl
  rw [htext]
  exact happend hopen (happend (hword hclient) (happend hmiddle (happend (hword henvelope) hclose)))

theorem outer_bodyText {clientId envelope : Text} (hclient : IsWord clientId)
    (henvelope : IsWord envelope) :
    document (.bytes (Bytes.ofAscii (bodyText clientId envelope))) =
        .ok (.obj [("client_id", .str clientId), ("request", .str envelope)]) ∧
      outer (.obj [("client_id", .str clientId), ("request", .str envelope)]) =
        .ok ⟨clientId, envelope⟩ := by
  constructor
  · have hnames : ∀ name ∈ (["client_id", "request"] : List Text), ∀ c ∈ name,
        Json.isPlain c = true := by decide
    have hread : Json.read? (bodyText clientId envelope) =
        some (.obj [("client_id", .str clientId), ("request", .str envelope)]) := by
      have hnodup : ([Text.ofString "client_id", Text.ofString "request"] : List Text).Nodup := by
        decide
      refine Json.read?_objectText hnodup fun m hm => ?_
      simp only [List.mem_cons, List.not_mem_nil, or_false] at hm
      rcases hm with rfl | rfl
      · exact ⟨hnames _ (by simp), hclient.plain⟩
      · exact ⟨hnames _ (by simp), henvelope.plain⟩
    unfold document
    dsimp only
    rw [Json.ofBytes_ascii (isPlainDocument_bodyText hclient henvelope) rfl hread]
    rfl
  · have hmember : ∀ {t : Text} {v : Json} {name : Text}, IsWord t → v.member name = .str t →
        outerMember v name = .ok t := by
      intro t v name ht hv
      unfold outerMember
      rw [hv]
      dsimp only
      rw [Text.trim_of_none ht.blank, if_neg]
      rw [List.isEmpty_iff]
      exact ht.filled
    unfold outer
    rw [hmember hclient rfl, hmember henvelope rfl]
    rfl

/-- **A signed token that is sealed for the issuer makes its session request**: the request is
that of its claims. -/
theorem validate_sealed {v : Validator} {registry : Registry} {now : Int} {client : Client}
    {clientId envelope : Text} {header payload signature : Bytes} {claims : SignedToken.ClaimSet}
    (hclient : IsWord clientId) (henvelope : IsWord envelope)
    (registered : registry.client clientId = .ok client)
    (opens : (v.decrypter.decryptCompact v.keyService envelope).result =
      .ok (Bytes.ofAscii (SignedToken.compact header payload signature)))
    (verified : SignedToken.verify now (tokenPolicy client)
      (SignedToken.compact header payload signature) = .ok claims)
    (clientAddress : Option Text) :
    (v.validate registry now (.bytes (Bytes.ofAscii (bodyText clientId envelope)))
      clientAddress).result = ofClaims v.sensitiveFields clientId client claims clientAddress := by
  obtain ⟨hdocument, houter⟩ := outer_bodyText hclient henvelope
  unfold Validator.validate
  rw [hdocument]
  dsimp only
  unfold Validator.validateDocument
  rw [houter]
  dsimp only
  rw [opens]
  dsimp only
  unfold Validator.ofPayload
  rw [SignedToken.tokenOf?_compact]
  dsimp only
  rw [registered]
  dsimp only
  rw [verified]

/-- An envelope in compact form is a word. -/
theorem isWord_encrypt (header wrapped contentKey initialValue payload : Bytes) :
    IsWord (Envelope.encrypt header wrapped contentKey initialValue payload) := by
  have hall : ∀ {p : CodePoint → Bool}, (∀ v < 64, p (Base64.urlChar v) = true) → p '.' = true →
      ∀ c ∈ Envelope.encrypt header wrapped contentKey initialValue payload, p c = true := by
    intro p hp hpoint c hc
    rcases Text.mem_joined hc with hc | ⟨t, ht, hc⟩
    · rw [List.mem_singleton.1 hc]
      exact hpoint
    · obtain ⟨bs, -, rfl⟩ := List.mem_map.1 ht
      exact Base64.forall_mem_encodeUrl hp c hc
  refine ⟨?_, hall (by decide) (by decide), hall (by decide) (by decide), fun c hc => ?_⟩
  · intro h
    -- an empty text has one piece, and an envelope has five
    have hpieces := Envelope.pieces_compact header wrapped initialValue
      (Gcm.encrypt contentKey initialValue (Bytes.ofAscii (Base64.encodeUrl header)) payload).1
      (Gcm.encrypt contentKey initialValue (Bytes.ofAscii (Base64.encodeUrl header)) payload).2
    unfold Envelope.encrypt at h
    dsimp only at h
    rw [h] at hpieces
    have hlength : (1 : Nat) = 5 := congrArg List.length hpieces
    exact absurd hlength (by decide)
  · have hblank := hall (p := fun c => !c.isBlank) (by decide) (by decide) c hc
    simpa using hblank

end SessionRequest

/-! ### Requests that go well -/

namespace Session

namespace Book

/-- A stored session that is not past its expiry is found by its id. -/
theorem session_of_live {now : Int} {id : Text} {b : Book} {s : Session} (hne : id ≠ [])
    (hs : b.store.get? id = some s) (live : now ≤ s.expiresAt) :
    b.session now (some id) = .ok s := by
  unfold session
  rw [filled?_eq_some.2 ⟨rfl, hne⟩, Option.bind_some, hs]
  dsimp only
  rw [if_neg]
  simpa [isExpiredAt] using live

end Book

end Session

namespace Issuer

open Http Session

/-- A valid request whose record is taken opens its session. -/
theorem handle_session {i : Issuer} {r : Request} (st : State) {q : SessionRequest}
    (isFor : r.IsFor .session)
    (valid : (i.validator.validate st.registry st.now (.bytes r.body) r.clientAddress).result =
      .ok q) {trail : Audit.Trail}
    (recorded : st.trail.publish i.source .start (st.book.newSession i.plan st.now q).1
      r.clientAddress (openingExtensions q) st.now = (.ok (), trail)) :
    ∃ counters, (i.handle r st).2 = { st with
      book := (st.book.newSession i.plan st.now q).2.save (st.book.newSession i.plan st.now q).1 q
      trail
      counters } := by
  rw [handle_of_isFor isFor]
  obtain ⟨counters, hcounters⟩ := respond_state (i.pathInUrl r) 201
    (i.openSession (.bytes r.body) r.clientAddress st)
  refine ⟨counters, hcounters.trans ?_⟩
  unfold openSession validate
  dsimp only
  rw [valid]
  dsimp only
  unfold openFor publish
  dsimp only
  rw [recorded]
  rfl

/-- A live session is given a code. -/
theorem handle_authorizationCode {i : Issuer} {r : Request} {st : State} {id : Text} {s : Session}
    (isFor : r.IsFor .authorizationCode) (named : r.sessionId = some id) (hne : id ≠ [])
    (hs : st.book.store.get? id = some s) (live : st.now ≤ s.expiresAt) :
    i.handle r st = (⟨200, .text []⟩,
      { st with book := (st.book.issueCode i.plan st.now s).2 }) := by
  rw [handle_of_isFor isFor]
  unfold serve issueCode
  dsimp only
  rw [named, Book.session_of_live hne hs live]

/-! ### One client

The journey of one session, up to its first code. The client signs with a secret of one byte, and
the issuer's key service has one key.
-/

namespace OneClient

/-- The client. -/
def client : Client := ⟨"c", "c", "a", some "r", "HS256", "eyJrdHkiOiAib2N0IiwiayI6ICJBUSJ9"⟩

def registry : Registry := ⟨[("c", .complete client)]⟩

/-- The content key that the key service unwraps. -/
def contentKey : Bytes := List.replicate 32 0

/-- An issuer whose ids and secrets get longer, so that none comes twice. -/
def issuer : Issuer where
  settings := ⟨"id", 100, 10, 50, false, false, "k", none, none, none, "P", "o", [], "INFO"⟩
  keyService := fun _ _ => .ok contentKey
  generators := ⟨fun n => List.replicate n 'a', fun n => List.replicate n 'A'⟩
  urlPath := Http.urlPath

/-- The header of what the client signs. -/
def header : Bytes := Bytes.ofAscii (Json.objectText [("alg", "HS256")])

/-- What the client signs of a payload, with the signature. -/
def signed (payload : Bytes) : Text :=
  SignedToken.compact header payload
    (Hash.sha256.hmac [1] (Bytes.ofAscii (SignedToken.signingInput header payload)))

/-- What the client signs is signed under a policy with its algorithm and key. -/
theorem isSigned_signed {p : SignedToken.Policy} (halgorithm : p.algorithm = "HS256")
    (hmaterial : p.material = client.keyMaterial) {payload : Bytes}
    {claims : SignedToken.ClaimSet} (hclaims : Json.ofBytes payload = .ok (.obj claims)) :
    SignedToken.IsSigned p (signed payload) claims := by
  have hheader : Json.ofBytes header = .ok (.obj [("alg", .str "HS256")]) :=
    Json.ofBytes_ascii (by decide) rfl (Json.read?_objectText (by decide) (by decide))
  have hmaterialKey : VerificationKey.ofMaterial client.keyMaterial "HS256" = .ok (.secret [1]) :=
    eq_ok_of_toOption (by decide +kernel)
  have hkey : SignedToken.policyKey p = .ok (.secret [1]) := by
    unfold SignedToken.policyKey
    rw [halgorithm, hmaterial, hmaterialKey]
  have hnamed : Json.field? [("alg", .str "HS256")] "alg" = some (.str p.algorithm) := by
    rw [halgorithm]
    rfl
  have hfound : SigningAlgorithm.find? p.algorithm = some ⟨"HS256", .secret, .sha256⟩ := by
    rw [halgorithm]
    rfl
  have hfit : SigningAlgorithm.fit ⟨"HS256", .secret, .sha256⟩ (.secret [1]) =
      .ok (.secret [1]) := eq_ok_of_toOption (by decide +kernel)
  exact SignedToken.isSigned_compact hheader rfl rfl rfl hnamed (by rw [halgorithm]; decide)
    hkey hfound hfit (beq_self_eq_true _) hclaims

/-- What the client signs is accepted where its claims are. -/
theorem verify_signed {now : Int} {p : SignedToken.Policy} (halgorithm : p.algorithm = "HS256")
    (hmaterial : p.material = client.keyMaterial) (hrequired : p.required ≠ []) {payload : Bytes}
    {claims : SignedToken.ClaimSet} (hclaims : Json.ofBytes payload = .ok (.obj claims))
    (hcheck : SignedToken.checkClaims now p claims = .ok ()) :
    SignedToken.verify now p (signed payload) = .ok claims :=
  SignedToken.verify_eq_ok_iff_isSigned.2
    ⟨hrequired, isSigned_signed halgorithm hmaterial hclaims, hcheck⟩

/-- The claims in the client's request for a session. -/
def requestClaims : SignedToken.ClaimSet :=
  [("iss", .str "c"), ("aud", .str "a"), ("sub", .str "s"), ("state", .str "t"),
    ("client_id", .str "c"), ("redirect_uri", .str "r"), ("exp", .int 9), ("nbf", .int 1)]

def requestPayload : Bytes := Bytes.ofAscii
  ("\x7b\"iss\":\"c\",\"aud\":\"a\",\"sub\":\"s\",\"state\":\"t\"," ++
    "\"client_id\":\"c\",\"redirect_uri\":\"r\",\"exp\":9,\"nbf\":1\x7d" : Text)

/-- The claims in what the client asserts about itself. -/
def assertionClaims : SignedToken.ClaimSet :=
  [("iss", .str "c"), ("aud", .str "a"), ("sub", .str "c"), ("jti", .str "j"), ("exp", .int 9)]

def assertionPayload : Bytes := Bytes.ofAscii
  "\x7b\"iss\":\"c\",\"aud\":\"a\",\"sub\":\"c\",\"jti\":\"j\",\"exp\":9\x7d"

theorem ofBytes_requestPayload : Json.ofBytes requestPayload = .ok (.obj requestClaims) :=
  Json.ofBytes_ascii (by decide +kernel) (by decide +kernel) (by decide +kernel)

theorem ofBytes_assertionPayload : Json.ofBytes assertionPayload = .ok (.obj assertionClaims) :=
  Json.ofBytes_ascii (by decide +kernel) (by decide +kernel) (by decide +kernel)

/-- The client's request for a session, sealed for the issuer. -/
def envelope : Text :=
  Envelope.encrypt
    (Bytes.ofAscii (Json.objectText [("alg", "RSA-OAEP-256"), ("enc", "A256GCM")])) [1]
    contentKey (List.replicate 12 0) (Bytes.ofAscii (signed requestPayload))

/-- The request that opens the session. -/
def opening : Request :=
  ⟨"POST", "/session", [], [], Bytes.ofAscii (SessionRequest.bodyText "c" envelope), none⟩

/-- The request that a code be given to the session. -/
def asking : Request := ⟨"POST", "/authorization-code", [], [("session-id", "a")], [], none⟩

/-- The exchange of the first code, with the client's assertion. -/
def exchangeForm : TokenRequest := ⟨"A", "r", signed assertionPayload⟩

/-- The request that presents the first code. -/
def presenting : Request :=
  ⟨"POST", "/token", [], [("host", "localhost:8080")],
    Bytes.ofAscii (Form.encode exchangeForm.parameters), none⟩

/-- What the claims of the client's request ask for. -/
def sessionRequest : SessionRequest := {
  audience := .str "a"
  issuer := .str "c"
  subject := .str "s"
  clientId := "c"
  tokenClientId := "c"
  notBefore := .int 1
  expiration := .int 9
  redirectUri := "r"
  responseType := .null
  state := .str "t"
  persistentSessionId := .null
  clientSessionId := .null
  context := .null
  sharedClaims := none
  evidence := none
  clientAddress := none }

/-- The session as it is opened. -/
def session : Session := (Book.empty.newSession issuer.plan 5 sessionRequest).1

/-- The session once it has its first code. -/
def codedSession : Session :=
  { session with authorizationCode := some "A", codeExpiresAt := some 15 }

/-- The book once the session is opened. -/
def openedBook : Book := ⟨⟨[("a", session)], []⟩, [], 1, 0⟩

/-- The book once the session has its first code. -/
def codedBook : Book := ⟨⟨[("a", codedSession)], [("A", "a")]⟩, [], 1, 1⟩

/-- What the client signs of a payload, sealed for the issuer. -/
def sealed (payload : Bytes) : Text :=
  Envelope.encrypt
    (Bytes.ofAscii (Json.objectText [("alg", "RSA-OAEP-256"), ("enc", "A256GCM")])) [1]
    contentKey (List.replicate 12 0) (Bytes.ofAscii (signed payload))

/-- What is sealed for the issuer is opened. -/
theorem decryptCompact_sealed (payload : Bytes) :
    (issuer.decrypter.decryptCompact issuer.keyService (sealed payload)).result =
      .ok (Bytes.ofAscii (signed payload)) := by
  have hread : Json.read? (Json.objectText [("alg", "RSA-OAEP-256"), ("enc", "A256GCM")]) =
      some (.obj [("alg", .str "RSA-OAEP-256"), ("enc", .str "A256GCM")]) :=
    Json.read?_objectText (by decide) (by decide)
  exact (Envelope.decryptCompact_encrypt _ (Utf8.decode?_ascii (by decide)) hread rfl rfl
    (by decide) rfl (by decide) (by decide)).1

theorem isWord_clientId : SessionRequest.IsWord "c" :=
  ⟨by decide, by decide, by decide, by decide⟩

theorem client_registry : registry.client "c" = .ok client := eq_ok_of_toOption (by decide)

/-- What the client signs and seals makes the session request of its claims. -/
theorem validate_signed (st : State) (hnow : st.now = 5) (hregistry : st.registry = registry)
    {payload : Bytes} {claims : SignedToken.ClaimSet}
    (hclaims : Json.ofBytes payload = .ok (.obj claims))
    (hcheck : SignedToken.checkClaims 5 (SessionRequest.tokenPolicy client) claims = .ok ()) :
    (issuer.validator.validate st.registry st.now
      (.bytes (Bytes.ofAscii (SessionRequest.bodyText "c" (sealed payload)))) none).result =
        SessionRequest.ofClaims issuer.validator.sensitiveFields "c" client claims none := by
  have hverified : SignedToken.verify 5 (SessionRequest.tokenPolicy client) (signed payload) =
      .ok claims := verify_signed rfl rfl (by decide) hclaims hcheck
  rw [hnow, hregistry]
  exact SessionRequest.validate_sealed (v := issuer.validator) isWord_clientId
    (SessionRequest.isWord_encrypt _ _ _ _ _) client_registry (decryptCompact_sealed payload)
    hverified none

theorem validate_opening {st : State} (hnow : st.now = 5) (hregistry : st.registry = registry) :
    (issuer.validator.validate st.registry st.now (.bytes opening.body)
      opening.clientAddress).result = .ok sessionRequest :=
  (validate_signed st hnow hregistry ofBytes_requestPayload
    (eq_ok_of_toOption (by decide +kernel))).trans (eq_ok_of_toOption (by decide +kernel))

/-- Every event of the session can be written. -/
theorem isWritable_event {s : Session} (hid : s.id = "a") (hsubject : s.subject = .str "s")
    (hpersistent : s.persistentSessionId = .null) (hclient : s.clientSessionId = .null)
    (haddress : s.clientAddress = none) (type : Audit.EventType) (now : Int) :
    Audit.IsWritable (Audit.event issuer.source type s none [] now) := by
  refine Audit.isWritable_event ?_ (Text.isScalar_of_any (by decide)) (Audit.isScalar_user ?_) now
  · cases type <;> exact Text.isScalar_of_any (by decide)
  · rw [hid, hsubject, hpersistent, hclient]
    unfold Audit.address
    rw [haddress]
    unfold Text.IsScalar
    decide +kernel

/-- The state once the session is opened. -/
def opened : State := issuer.after (.initial 5 registry) (.request opening)

/-- The state once the session has its first code. -/
def coded : State := issuer.after opened (.request asking)

theorem reachable_opened : Reachable issuer opened :=
  .after (.request opening) (.initial 5 registry)

theorem reachable_coded : Reachable issuer coded := .after (.request asking) reachable_opened

theorem opened_eq : ∃ trail counters, trail.Appendable ∧
    opened = ⟨5, registry, openedBook, trail, counters⟩ := by
  obtain ⟨trail, hrecorded, happendable⟩ :=
    Audit.Trail.publish_of_appendable Audit.Trail.appendable_missing
      (isWritable_event (s := session) rfl rfl rfl rfl rfl .start 5)
  obtain ⟨counters, hstate⟩ := handle_session (i := issuer) (r := opening)
    (.initial 5 registry) ⟨rfl, rfl⟩ (validate_opening rfl rfl) hrecorded
  have hbook : (Book.empty.newSession issuer.plan 5 sessionRequest).2.save session
      sessionRequest = openedBook := by decide
  refine ⟨trail, counters, happendable, ?_⟩
  unfold opened
  rw [after_request, hstate, ← hbook]
  rfl

theorem coded_eq : ∃ trail counters, trail.Appendable ∧
    coded = ⟨5, registry, codedBook, trail, counters⟩ := by
  obtain ⟨trail, counters, happendable, hopened⟩ := opened_eq
  have hs : opened.book.store.get? "a" = some session := by
    rw [hopened]
    rfl
  have hlive : opened.now ≤ session.expiresAt := by
    rw [hopened]
    show (5 : Int) ≤ session.expiresAt
    decide
  have hbook : (openedBook.issueCode issuer.plan 5 session).2 = codedBook := by decide
  have hgiven := handle_authorizationCode (i := issuer) (r := asking) ⟨rfl, rfl⟩ rfl (by decide)
    hs hlive
  refine ⟨trail, counters, happendable, ?_⟩
  unfold coded
  rw [after_request, hgiven, hopened, ← hbook]

/-- The form of an exchange of the first code is read back. -/
theorem ofPayload_presented {redirectUri : Text} (redirect : redirectUri ≠ [] ∧ redirectUri.IsScalar)
    (assertion : Bytes) :
    TokenRequest.ofPayload (.bytes (Bytes.ofAscii (Form.encode
      (TokenRequest.mk "A" redirectUri (signed assertion)).parameters))) =
        .ok ⟨"A", redirectUri, signed assertion⟩ := by
  have hassertion : (signed assertion).IsScalar :=
    Text.isScalar_of_isAscii (SignedToken.isAscii_compact _ _ _)
  have hcode : ("A" : Text) ≠ [] ∧ ("A" : Text).IsScalar := by decide
  exact TokenRequest.ofPayload_parameters (List.forall_mem_cons.2 ⟨hcode, List.forall_mem_cons.2
    ⟨redirect, List.forall_mem_singleton.2 ⟨SignedToken.compact_ne_nil _ _ _, hassertion⟩⟩⟩)

theorem ofPayload_presenting :
    TokenRequest.ofPayload (.bytes presenting.body) = .ok exchangeForm :=
  ofPayload_presented (by decide) assertionPayload

theorem sessionOfCode_codedBook :
    codedBook.sessionOfCode 5 (some exchangeForm.code) = .ok codedSession := rfl

theorem verify_assertion : SignedToken.verify 5 (TokenRequest.assertionPolicy client "c")
    (signed assertionPayload) = .ok assertionClaims :=
  verify_signed rfl rfl (by decide) ofBytes_assertionPayload (eq_ok_of_toOption (by decide +kernel))

/-- The client stands behind a form with its assertion, if it names the redirect URI of the
session. -/
theorem check_presented (redirectUri : Text) :
    TokenRequest.check ⟨"A", redirectUri, signed assertionPayload⟩ registry 5 codedSession =
      if redirectUri = "r" then .ok () else .error (.redirectMismatch redirectUri "r") :=
  TokenRequest.check_of_verified (s := codedSession) (eq_ok_of_toOption (by decide))
    verify_assertion

theorem check_presenting : exchangeForm.check registry 5 codedSession = .ok () :=
  (check_presented "r").trans (if_pos rfl)

/-- The exchange is one for the session, wherever the session has its first code. -/
theorem accepts_presenting {st : State} {trail : Audit.Trail} {counters : Counters}
    (h : st = ⟨5, registry, codedBook, trail, counters⟩) :
    Accepts (.bytes presenting.body) st exchangeForm codedSession where
  form := ofPayload_presenting
  code := by
    rw [h]
    exact sessionOfCode_codedBook
  client := by
    rw [h]
    exact check_presenting

end OneClient

end Issuer

end Issuance
