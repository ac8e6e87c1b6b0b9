import Issuance.Signed.Token

/-!
# Issuance.Signed.Verifier

**Verifying signed tokens** against a `Policy`: the one algorithm and key registered for the
client, the claims that must be there, and what audience, issuer and subject must be. The stages
come in a fixed order, and the first that fails names the fault: the header, the algorithm and
its key, the signature, the payload, the registered claims, and last the window of time.

Nothing in a token chooses how it is verified: its header can only agree with the policy.
-/

namespace Issuance

namespace SignedToken

/-- What is expected of a token. -/
structure Policy where
  algorithm : Text
  material : Text
  required : List Text
  audience : Option Text
  issuer : Option Text
  subject : Option Text
  deriving DecidableEq

/-- A verified payload. -/
abbrev ClaimSet := List (Text × Json)

/-- Goes on if a condition holds. -/
def require (condition : Bool) (fault : Fault) : Except Fault Unit :=
  if condition then .ok () else .error fault

/-! ### Header -/

/-- The extensions that are understood. -/
def supportedExtensions : List Text := ["b64"]

/-- Checks the names of critical extensions one after the other. -/
def checkExtensions (t : SignedToken) : List Json → Except Fault Unit
  | [] => .ok ()
  | .str name :: rest =>
    if !supportedExtensions.contains name then .error (.criticalUnsupported name)
    else if (t.parameter? name).isNone then .error (.criticalMissing name)
    else checkExtensions t rest
  | _ :: _ => .error .criticalNotText

/-- Checks the critical extensions, if the header names any. -/
def checkCritical (t : SignedToken) : Except Fault Unit :=
  match t.parameter? "crit" with
  | none => .ok ()
  | some (.arr (name :: names)) => checkExtensions t (name :: names)
  | some _ => .error .criticalNotList

/-- Whether the header lists the extension for detached payloads as critical. -/
def listsDetached (t : SignedToken) : Bool :=
  match t.parameter? "crit" with
  | some (.arr names) => names.contains (.str "b64")
  | _ => false

/-- Checks the header as far as it does not concern the algorithm. -/
def checkHeader (t : SignedToken) : Except Fault Unit := do
  match t.parameter? "kid" with
  | none | some (.str _) => pure ()
  | some _ => .error .keyIdNotText
  checkCritical t
  if isDetached t.header then
    require t.listsDetached .detachedNotCritical
    .error .detachedMissing

/-! ### Algorithm, key and signature -/

/-- The algorithm of a token: the registered one, which the header must name. -/
def algorithm (p : Policy) (t : SignedToken) : Except Fault SigningAlgorithm :=
  match t.parameter? "alg" with
  | none => .error .algorithmMissing
  | some named =>
    if named.isVacant || named != .str p.algorithm then .error .algorithmNotAllowed
    else match SigningAlgorithm.find? p.algorithm with
      | none => .error .algorithmUnknown
      | some a => .ok a

/-- The key that an algorithm verifies with. -/
def fittingKey (a : SigningAlgorithm) (key : VerificationKey) : Except Fault VerificationKey :=
  match a.fit key with
  | .ok fitting => .ok fitting
  | .error mismatch => .error (.key mismatch)

/-- Checks the signature over the first two segments. -/
def checkSignature (p : Policy) (key : VerificationKey) (t : SignedToken) : Except Fault Unit := do
  let a ← algorithm p t
  let fitting ← fittingKey a key
  require (a.verifies fitting t.signedBytes t.signature) .signature

/-! ### Claims -/

/-- The claims in the payload. -/
def claims (t : SignedToken) : Except Fault ClaimSet :=
  match Json.ofBytes t.payload with
  | .error _ => .error .payloadNotJson
  | .ok (.obj members) => .ok members
  | .ok _ => .error .payloadNotObject

/-- The value of a claim; `null` where there is none. -/
def claim (claims : ClaimSet) (name : Text) : Json := (Json.obj claims).member name

/-- Checks that each claim is there and not `null`. -/
def checkPresent (claims : ClaimSet) : List Text → Except Fault Unit
  | [] => .ok ()
  | name :: names =>
    if claim claims name = .null then .error (.claimMissing name) else checkPresent claims names

/-- Checks the issuer, if one is expected. -/
def checkIssuer (claims : ClaimSet) : Option Text → Except Fault Unit
  | none => .ok ()
  | some expected =>
    match Json.field? claims "iss" with
    | none => .error (.claimMissing "iss")
    | some (.str issuer) => require (issuer == expected) .issuerMismatch
    | some _ => .error .issuerNotText

/-- Checks that the expected audience, if any, is the audience or one of it. -/
def checkAudience (claims : ClaimSet) : Option Text → Except Fault Unit
  | none => .ok ()
  | some expected =>
    let audience := claim claims "aud"
    if audience.isVacant then .error (.claimMissing "aud")
    else match audience with
      | .str one => require (one == expected) .audienceMismatch
      | .arr many => do
        require (many.all fun v => v.text?.isSome) .audienceForm
        require (many.contains (.str expected)) .audienceMismatch
      | _ => .error .audienceForm

/-- Checks that a claim, if there, is a text. -/
def checkText (claims : ClaimSet) (name : Text) (fault : Fault) : Except Fault Unit :=
  match Json.field? claims name with
  | none | some (.str _) => .ok ()
  | some _ => .error fault

/-- Checks that no required claim is vacant: an empty value is as good as none. -/
def checkFilled (claims : ClaimSet) : List Text → Except Fault Unit
  | [] => .ok ()
  | name :: names =>
    if (claim claims name).isVacant then .error (.claimVacant name) else checkFilled claims names

/-! ### The window of time -/

/-- A claim that is a number: an integer or a floating-point number. -/
def isNumber : Json → Bool
  | .int _ | .float _ => true
  | _ => false

/-- `v ≤ n` for a number; false of all else. -/
def atMost (v : Json) (n : Int) : Bool :=
  match v with
  | .int i => i ≤ n
  | .float x => x.atMost n
  | _ => false

/-- `n < v` for a number; false of all else. -/
def exceeds (v : Json) (n : Int) : Bool :=
  match v with
  | .int i => n < i
  | .float x => x.exceeds n
  | _ => false

/-- Checks that a claim, if there, is a number. -/
def checkNumber (claims : ClaimSet) (name : Text) : Except Fault Unit :=
  match Json.field? claims name with
  | none => .ok ()
  | some v => require (isNumber v) (.claimNotNumber name)

/-- Checks that a claim, if there, does not make the token invalid at this time. -/
def checkTime (claims : ClaimSet) (name : Text) (excluded : Json → Bool) (fault : Fault) :
    Except Fault Unit :=
  match Json.field? claims name with
  | none => .ok ()
  | some v => require (!excluded v) fault

/-- Checks that the time lies in the window of the token: before its expiry, and not before its
beginning or its issue. -/
def checkWindow (now : Int) (claims : ClaimSet) : Except Fault Unit := do
  checkNumber claims "exp"
  checkNumber claims "nbf"
  checkNumber claims "iat"
  checkTime claims "exp" (atMost · now) .expired
  checkTime claims "nbf" (exceeds · now) .notYetValid
  checkTime claims "iat" (exceeds · now) .issuedLater

/-- Checks the subject, if one is expected. -/
def checkSubject (claims : ClaimSet) : Option Text → Except Fault Unit
  | none => .ok ()
  | some expected => require (claim claims "sub" == .str expected) .subjectMismatch

/-- Checks what the policy says about the claims. -/
def checkClaims (now : Int) (p : Policy) (claims : ClaimSet) : Except Fault Unit := do
  checkPresent claims p.required
  checkIssuer claims p.issuer
  checkAudience claims p.audience
  checkText claims "sub" .subjectNotText
  checkText claims "jti" .idNotText
  checkFilled claims p.required
  checkWindow now claims
  checkSubject claims p.subject

/-! ### Verification -/

/-- The key of a policy. -/
def policyKey (p : Policy) : Except Fault VerificationKey :=
  match VerificationKey.ofMaterial p.material p.algorithm with
  | .ok key => .ok key
  | .error f => .error (.material f)

/-- The claims of a token that satisfies a policy at a time. -/
def verify (now : Int) (p : Policy) (token : Text) : Except Fault ClaimSet := do
  require (!p.required.isEmpty) .noRequirements
  let key ← policyKey p
  let t ← parse token
  checkHeader t
  checkSignature p key t
  let claims ← claims t
  checkClaims now p claims
  .ok claims

end SignedToken

end Issuance
