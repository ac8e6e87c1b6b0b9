import Issuance.Claims.Shared
import Issuance.Fault
import Issuance.Json.Writer

/-!
# Issuance.Claims.Redaction

**Redaction.** Shared claims that cannot be read are reported with an echo of the input that is
safe to log. A **sensitive** field shows only what kind of value it had: asterisks for text, an
empty object for a list or an object, `null` for all else. A field that is not sensitive is shown
as it came. Without a list of sensitive fields every field is sensitive, and an input that is not
an object is hidden whole.
-/

namespace Issuance

namespace Redaction

/-- All that is shown of a sensitive value. -/
def hide : Json → Json
  | .str _ => .str "******"
  | .arr _ | .obj _ => .obj []
  | .null | .bool _ | .int _ | .float _ => .null

/-- Whether a field is hidden, given the list of sensitive fields. -/
def isSensitive (sensitive : List Text) (key : Text) : Bool :=
  sensitive.isEmpty || sensitive.contains key

/-- The echo of an input. -/
def redact (sensitive : List Text) : Json → Json
  | .obj members =>
    .obj (members.map fun (k, v) => (k, if isSensitive sensitive k then hide v else v))
  | v => hide v

end Redaction

namespace SharedClaims

/-- The fields that are sensitive unless others are configured: every field, by its wire name. -/
def defaultSensitive : List Text := fields.map Claims.FieldName.wire

/-- What is reported when shared claims cannot be read. -/
def unreadable (sensitive : List Text) (v : Json) : Fault :=
  .plain .sharedClaims ("Error while deserializing object. Some PII fields were redacted. " ++
    (Redaction.redact sensitive v).echo)

/-- Reads shared claims, or reports an input that cannot be read with a redacted echo of it. -/
def parse (sensitive : List Text) (v : Json) : Except Fault SharedClaims :=
  match read? v with
  | some c => .ok c
  | none => .error (unreadable sensitive v)

end SharedClaims

end Issuance
