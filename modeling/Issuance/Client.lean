import Issuance.Fault
import Issuance.Json.Display
import Issuance.Json.Reader
import Issuance.Text.Blank
import Issuance.Text.Utf8

/-!
# Issuance.Client

**Clients** are the relying parties that may open sessions. Each has a registration that says
what its tokens must look like and where its users may be sent back to. An unknown client or an
incomplete registration is the server's fault, never the caller's.
-/

namespace Issuance

/-- A complete registration. -/
structure Client where
  id : Text
  issuer : Text
  audience : Text
  redirectUri : Option Text
  signingAlgorithm : Text
  keyMaterial : Text
  deriving DecidableEq

namespace Client

/-- What is wrong with a registration. -/
inductive Fault
  | notFound (clientId : Text)
  | notObject (clientId : Text)
  | missing (clientId member : Text)
  deriving DecidableEq

namespace Fault

/-- The fault as it is reported. -/
def report : Fault → Issuance.Fault
  | notFound clientId => .detailed .clientConfiguration "Client configuration not found"
      ("no registration for client_id " ++ clientId.quoted)
  | notObject clientId => .detailed .clientConfiguration "Client configuration is invalid"
      ("registration for " ++ clientId ++ " is not an object")
  | missing clientId member => .detailed .clientConfiguration "Client configuration is invalid"
      ("registration for " ++ clientId ++ " is missing " ++ member)

end Fault

/-- A member that must be a text that is not blank; it is trimmed. -/
def requiredMember (clientId : Text) (entry : Json) (name : Text) : Except Fault Text :=
  match entry.member name with
  | .str t => if t.trim.isEmpty then .error (.missing clientId name) else .ok t.trim
  | _ => .error (.missing clientId name)

/-- Reads a registration. A redirect URI that is not a text is none. -/
def ofEntry (clientId : Text) (entry : Json) : Except Fault Client :=
  match entry with
  | .obj _ => do
    let issuer ← requiredMember clientId entry "issuer"
    let audience ← requiredMember clientId entry "audience"
    let signingAlgorithm ← requiredMember clientId entry "signingAlgorithm"
    let keyMaterial ← requiredMember clientId entry "publicSigningJwkBase64"
    .ok ⟨clientId, issuer, audience, (entry.member "redirectUri").text?, signingAlgorithm,
      keyMaterial⟩
  | _ => .error (.notObject clientId)

/-- Whether two redirect URIs agree: both are absent, or they are the same text. -/
def redirectUrisMatch (expected actual : Option Text) : Bool := expected == actual

end Client

/-- A registration as it is held: as stated, to be read when it is needed, or read already. -/
inductive Registration
  | stated (entry : Json)
  | complete (client : Client)
  deriving DecidableEq

/-- The registrations by client id. -/
structure Registry where
  entries : Entries Text Registration
  deriving DecidableEq

namespace Registry

/-- A registry without clients. -/
def empty : Registry := ⟨[]⟩

/-- The registry of the members of an object. -/
def ofMembers (members : List (Text × Json)) : Registry :=
  ⟨members.map fun (k, v) => (k, .stated v)⟩

/-- The complete registration of a client, whose id is trimmed. -/
def client (r : Registry) (clientId : Text) : Except Client.Fault Client :=
  let id := clientId.trim
  if id.isEmpty then .error (.notFound id)
  else match Entries.get? id r.entries with
    | none | some (.stated .null) => .error (.notFound id)
    | some (.stated entry) => Client.ofEntry id entry
    | some (.complete c) => .ok c

/-- The registry without a client. -/
def remove (r : Registry) (clientId : Text) : Registry := ⟨Entries.erase clientId r.entries⟩

/-- Why a file gives no registry. -/
inductive FileFault
  /-- It is not JSON text. -/
  | unreadable
  | notObject
  deriving DecidableEq

namespace FileFault

/-- The fault in words, for a file of a given name, where it has any. -/
def message? (fileName : Text) : FileFault → Option Text
  | unreadable => none
  | notObject => some (fileName ++ ": client registry must be a JSON object")

end FileFault

/-- The registry in a file. A missing file has no clients. -/
def ofFile : Option Bytes → Except FileFault Registry
  | none => .ok empty
  | some bs => match (Utf8.decode? bs).bind Json.read? with
    | none => .error .unreadable
    | some (.obj members) => .ok (ofMembers members)
    | some _ => .error .notObject

end Registry

end Issuance
