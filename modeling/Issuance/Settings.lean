import Issuance.Claims.Redaction
import Issuance.Text.Path
import Issuance.Text.UpperCase

/-!
# Issuance.Settings

**Settings** come from two sources: values given directly, and variables of the environment. The
names of both match in either case, and a given value wins. `Settings.load` reads every setting,
and reports either all settings that are wrong or, if each is right by itself, that two do not go
together.
-/

namespace Issuance

/-- How the issuer is set up. A directory or file that is not set has a place of its own
elsewhere. -/
structure Settings where
  componentId : Text
  sessionTtl : Int
  authorizationCodeTtl : Int
  accessTokenTtl : Int
  keyRotation : Bool
  legacyFallback : Bool
  decryptionKeyId : Text
  keyDirectory : Option Text
  clientsPath : Option Text
  auditDirectory : Option Text
  eventPrefix : Text
  requiredScope : Text
  sensitiveFields : List Text
  logLevel : Text
  deriving DecidableEq

namespace Settings

/-- What is wrong with a setting. -/
inductive Cause
  /-- The value is not of the right type. -/
  | type (fault : TypeFault)
  /-- The value breaks a rule, which is given in words. -/
  | rule (statement : Text)
  deriving DecidableEq

/-- A wrong setting: its place, the name first, and what is wrong. -/
structure Problem where
  place : List Text
  cause : Cause
  deriving DecidableEq

/-- The report of a problem has a written form: what it says does not quote a lone surrogate. -/
def Problem.isReportable (p : Problem) : Bool :=
  match p.cause with
  | .type _ => true
  | .rule statement => !statement.any CodePoint.isSurrogate

/-- Why settings cannot be loaded. -/
inductive LoadFault
  | problems (all : List Problem)
  /-- One of the problems has no report in writing. -/
  | unreportable
  /-- A variable of the environment has no name. -/
  | namelessVariable
  /-- A variable of the environment has a name or a value that no environment can hold. -/
  | impossibleVariable
  deriving DecidableEq

/-- Where settings come from. -/
structure Sources where
  environment : List (Text × Text)
  given : List (Text × Json)

/-- The lower-case form by which names of variables are compared. The Kelvin sign has the small
letter of `K`. -/
def foldedName (t : Text) : Text :=
  t.map fun c => if c.value = 0x212A then CodePoint.ofChar 'k' else c.toLowerAscii

/-- The value under a name in either case, of which the last counts. -/
def inEitherCase {α : Type} (name : Text) (entries : List (Text × α)) : Option α :=
  (entries.reverse.find? fun (n, _) => foldedName n = foldedName name).map fun (_, v) => v

/-- The value that the sources have for a setting. Among given values one under the very name comes
first. -/
def Sources.find? (s : Sources) (name : Text) : Option Json :=
  match Entries.get? name s.given, inEitherCase name s.given with
  | some v, _ | none, some v => some v
  | none, none => (inEitherCase name s.environment).map .str

/-- A setting that is right, or the problems found. Combining two settings keeps the problems of
both. -/
inductive Checked (α : Type)
  | right (value : α)
  | wrong (problems : List Problem)

namespace Checked

/-- Applies a function to a setting. -/
def apply {α β : Type} : Checked (α → β) → Checked α → Checked β
  | right f, right x => right (f x)
  | right _, wrong ps => wrong ps
  | wrong ps, right _ => wrong ps
  | wrong ps, wrong qs => wrong (ps ++ qs)

instance : Applicative Checked where
  pure := right
  seq f x := apply f (x ())

end Checked

/-- Reads a setting that has a default. -/
def setting {α : Type} (s : Sources) (name : Text) (default : α) (read : Json → Except Cause α) :
    Checked α :=
  match s.find? name with
  | none => .right default
  | some v => match read v with
    | .ok x => .right x
    | .error c => .wrong [⟨[name], c⟩]

/-- Reads a value by type. -/
def typed {α : Type} (r : Except TypeFault α) : Except Cause α :=
  match r with
  | .ok x => .ok x
  | .error f => .error (.type f)

/-- A switch: on unless the value is vacant or a word for "off". Values of other types are
off. -/
def switch : Json → Bool
  | .bool b => b
  | .int i => i != 0
  | .str t =>
    let word := t.trim.map CodePoint.toLowerAscii
    !(word.isEmpty || word = "0" || word = "false" || word = "no" || word = "off")
  | _ => false

/-- A positive number of seconds. -/
def seconds (v : Json) : Except Cause Int := do
  let n ← typed (Coercion.integer v)
  if n ≤ 0 then .error (.rule "TTL values must be positive seconds") else .ok n

/-- A text that is not blank, without surrounding blanks. -/
def nonBlank (v : Json) : Except Cause Text := do
  let t ← typed (Coercion.text v)
  if t.trim.isEmpty then .error (.rule "value cannot be empty") else .ok t.trim

/-- The name of this component, without surrounding blanks and slashes at its end. -/
def component (v : Json) : Except Cause Text := do
  let t ← typed (Coercion.text v)
  .ok (Text.trimEndBy (· = '/') t.trim)

/-- The levels of a log. -/
def logLevels : List Text := ["DEBUG", "INFO", "WARNING", "ERROR", "CRITICAL"]

/-- The level of the log, in either case; the usual level if empty. -/
def level (v : Json) : Except Cause Text := do
  let t ← typed (Coercion.text v)
  let name := if t.isEmpty then ("INFO" : Text) else (t.trim).toUpper
  if logLevels.contains name then .ok name else .error (.rule ("unknown LOG_LEVEL: " ++ name))

/-- A path. -/
def path (v : Json) : Except Cause (Option Text) :=
  match v with
  | .str t => .ok (some t.normalPath)
  | _ => .error (.type .notPath)

/-- The texts of a list of which the first has the given number. Wrong items are named by their
number. -/
def textItems (name : Text) (index : Nat) : List Json → Checked (List Text)
  | [] => .right []
  | v :: vs =>
    let here : Checked Text := match Coercion.text v with
      | .ok t => .right t
      | .error f => .wrong [⟨[name, Text.ofNat index], .type f⟩]
    List.cons <$> here <*> textItems name (index + 1) vs

/-- A list of field names; a text is a list separated by commas, in which empty names do not
count. -/
def fieldNames (s : Sources) (name : Text) (default : List Text) : Checked (List Text) :=
  match s.find? name with
  | none => .right default
  | some (.str t) => .right (((Text.pieces (· = ',') t).map Text.trim).filter (!·.isEmpty))
  | some (.arr items) => textItems name 0 items
  | some _ => .wrong [⟨[name], .type .notList⟩]

/-- The settings where the sources say nothing. -/
def standard : Settings where
  componentId := "https://review-c.account.gov.uk"
  sessionTtl := 7200
  authorizationCodeTtl := 600
  accessTokenTtl := 3600
  keyRotation := false
  legacyFallback := false
  decryptionKeyId := "session_decryption_key"
  keyDirectory := none
  clientsPath := none
  auditDirectory := none
  eventPrefix := "IPV_CRI"
  requiredScope := "openid"
  sensitiveFields := SharedClaims.defaultSensitive
  logLevel := "INFO"

/-- Reads each setting by itself, in the order in which problems are reported. -/
def each (s : Sources) : Checked Settings :=
  Settings.mk
    <$> setting s "COMPONENT_ID" standard.componentId component
    <*> setting s "SESSION_TTL_SECONDS" standard.sessionTtl seconds
    <*> setting s "AUTHORIZATION_CODE_TTL_SECONDS" standard.authorizationCodeTtl seconds
    <*> setting s "ACCESS_TOKEN_TTL_SECONDS" standard.accessTokenTtl seconds
    <*> setting s "KEY_ROTATION_ENABLED" standard.keyRotation (.ok ∘ switch)
    <*> setting s "LEGACY_KEY_FALLBACK_ENABLED" standard.legacyFallback (.ok ∘ switch)
    <*> setting s "DECRYPTION_KEY_ID" standard.decryptionKeyId nonBlank
    <*> setting s "KEY_DIR" standard.keyDirectory path
    <*> setting s "CLIENTS_CONFIG_PATH" standard.clientsPath path
    <*> setting s "AUDIT_DIR" standard.auditDirectory path
    <*> setting s "AUDIT_EVENT_NAME_PREFIX" standard.eventPrefix nonBlank
    <*> setting s "REQUIRED_SCOPE" standard.requiredScope nonBlank
    <*> fieldNames s "SHARED_CLAIMS_SENSITIVE_FIELDS" standard.sensitiveFields
    <*> setting s "LOG_LEVEL" standard.logLevel level

/-- A code point that the text of an environment may hold: neither zero nor a lone surrogate, unless
it stands for a byte that is no part of a character. -/
def isEnvironmental (c : CodePoint) : Bool :=
  c.value != 0 && (!c.isSurrogate || (0xDC80 ≤ c.value && c.value ≤ 0xDCFF))

/-- Why an environment cannot have a variable. -/
def variableFault? (name value : Text) : Option LoadFault :=
  if name.isEmpty then some .namelessVariable
  else if name.all isEnvironmental && !name.contains "=" && value.all isEnvironmental then none
  else some .impossibleVariable

/-- The settings, or the problems with them. The legacy key is only ever tried after the rotating
keys, so it needs rotation. -/
def ofChecked : Checked Settings → Except LoadFault Settings
  | .wrong ps => .error (if ps.all Problem.isReportable then .problems ps else .unreportable)
  | .right settings =>
    if settings.legacyFallback && !settings.keyRotation then
      .error (.problems
        [⟨[], .rule "LEGACY_KEY_FALLBACK_ENABLED requires KEY_ROTATION_ENABLED"⟩])
    else .ok settings

/-- Reads the settings. -/
def load (s : Sources) : Except LoadFault Settings :=
  match s.environment.findSome? fun (name, value) => variableFault? name value with
  | some f => .error f
  | none => ofChecked (each s)

end Settings

end Issuance
