import Issuance.Json.Encoded
import Issuance.Key.Certificate

/-!
# Issuance.Key.Secret

**Secrets that must not serve as such.** A secret of a keyed hash that is a key in one of its
written forms has been mistaken for another kind of key, and one that is a public key is known to
everyone: whoever knows it could sign. `Secret.isWrittenKey` recognises PEM blocks, the one-line
form of keys for remote logins, public keys and certificates; `Secret.isJwk` JSON Web Keys.
-/

namespace Issuance

namespace Secret

/-- Whether a condition holds of a text or of what is left after some of its beginning. -/
def holdsSomewhere (p : Text → Bool) : Text → Bool
  | [] => p []
  | c :: t => p (c :: t) || holdsSomewhere p t

/-- The labels of blocks that hold keys or certificates. -/
def blockLabels : List Text :=
  ["CERTIFICATE", "TRUSTED CERTIFICATE", "PRIVATE KEY", "PUBLIC KEY", "ENCRYPTED PRIVATE KEY",
    "OPENSSH PRIVATE KEY", "DSA PRIVATE KEY", "RSA PRIVATE KEY", "RSA PUBLIC KEY",
    "EC PRIVATE KEY", "DH PARAMETERS", "NEW CERTIFICATE REQUEST", "CERTIFICATE REQUEST",
    "SSH2 PUBLIC KEY", "SSH2 ENCRYPTED PRIVATE KEY", "X509 CRL"]

/-- What follows the boundary of a block: four minus signs, a minus sign or a blank, a word with
the label, and the same signs again. -/
def afterBoundary? (word label t : Text) : Option Text :=
  let rule : Text := "----"
  let gaps : List Text := ["-", " "]
  let boundaries := gaps.flatMap fun before => gaps.map fun after =>
    rule ++ before ++ word ++ " " ++ label ++ after ++ rule
  (boundaries.find? fun b => t.startsWith b).map fun b => t.drop b.length

/-- Whether a text begins with a block: two boundaries of one label with something between
them. -/
def beginsWithBlock (t : Text) : Bool :=
  blockLabels.any fun label =>
    match afterBoundary? "BEGIN" label t with
    | none | some [] => false
    | some (_ :: body) => holdsSomewhere (fun u => (afterBoundary? "END" label u).isSome) body

/-- The kinds of keys in the one-line form. -/
def lineKinds : List Text :=
  ["ssh-ed25519", "ssh-rsa", "ssh-dss", "ecdsa-sha2-nistp256", "ecdsa-sha2-nistp384",
    "ecdsa-sha2-nistp521"]

/-- Whether a secret contains a block, begins like a key in the one-line form, or is a public key
or a certificate. -/
def isWrittenKey (secret : Bytes) : Bool :=
  let t := Bytes.toAscii secret
  holdsSomewhere beginsWithBlock t || lineKinds.any t.startsWith ||
    (match VerificationKey.ofDer secret with
      | .ok _ => true
      | .error _ => false) ||
    Certificate.isOne secret

mutual

/-- Whether a value is or contains an object with a member of this name. -/
def mentions (name : Text) : Json → Bool
  | .arr items => anyMentions name items
  | .obj members => memberMentions name members
  | _ => false

/-- Whether one of a row of values does. -/
def anyMentions (name : Text) : List Json → Bool
  | [] => false
  | v :: vs => mentions name v || anyMentions name vs

/-- Whether one of the members has this name, or its value such a member. -/
def memberMentions (name : Text) : List (Text × Json) → Bool
  | [] => false
  | (k, v) :: ms => k == name || mentions name v || memberMentions name ms

end

/-- Whether a secret is JSON with a JSON Web Key in it. -/
def isJwk (secret : Bytes) : Bool :=
  match Json.ofBytes secret with
  | .ok v => mentions "kty" v
  | .error _ => false

end Secret

end Issuance
