import Issuance.Crypto.Sha2
import Issuance.Entries
import Issuance.Key.Private

/-!
# Issuance.Key.Ring

A **key service** unwraps content keys by the id of the key that wraps them. What stands behind
it is not this library's concern; a `KeyRing` is one that holds its RSA keys in memory, loaded
from files that are named for their key ids.
-/

namespace Issuance

/-- Why a key service cannot unwrap. -/
inductive KeyUnavailable
  /-- There is no key with this id. -/
  | unknown (keyId : Text)
  /-- The key with this id does not unwrap the bytes. -/
  | unwrapFailed (keyId : Text)
  deriving DecidableEq

namespace KeyUnavailable

/-- The name of this failure in the details of a fault. -/
def label : Text := "KeyUnavailableError"

/-- The failure in words. -/
def message : KeyUnavailable → Text
  | unknown keyId => "unknown key id: " ++ keyId
  | unwrapFailed keyId => "unwrap failed with key id: " ++ keyId

end KeyUnavailable

/-- A key service: it answers a key id and wrapped bytes with unwrapped bytes or a failure. -/
abbrev KeyService := Text → Bytes → Except KeyUnavailable Bytes

/-- RSA keys by id. -/
structure KeyRing where
  keys : Entries Text Rsa.PrivateKey

/-- Why a file gives no key of a ring. -/
inductive RingFault
  | key (fault : KeyFault)
  /-- It is a private key of another kind. -/
  | notRsa
  deriving DecidableEq

/-- The fault in words, where it has any. -/
def RingFault.message? : RingFault → Option Text
  | notRsa => some "decryption key must be an RSA private key"
  | key _ => none

namespace KeyRing

/-- The ring as a service: OAEP with SHA-256. -/
def unwrap (ring : KeyRing) : KeyService := fun keyId wrapped =>
  match Entries.get? keyId ring.keys with
  | none => .error (.unknown keyId)
  | some key => match Rsa.decryptOaep? .sha256 key wrapped with
    | some bs => .ok bs
    | none => .error (.unwrapFailed keyId)

/-- The ids of the keys in order. -/
def keyIds (ring : KeyRing) : List Text :=
  (Entries.keys ring.keys).mergeSort Text.le

/-- The key in a PEM file. -/
def keyOfPem (pem : Text) : Except RingFault Rsa.PrivateKey :=
  match PrivateKey.ofPem pem with
  | .ok (.rsa key) => .ok key
  | .ok _ => .error .notRsa
  | .error f => .error (.key f)

/-- The ring of PEM files, loaded in order up to the first that holds no key. -/
def ofPems (files : List (Text × Text)) : Except RingFault KeyRing :=
  go [] files
where
  /-- Adds the keys of more files. -/
  go (keys : Entries Text Rsa.PrivateKey) : List (Text × Text) → Except RingFault KeyRing
    | [] => .ok ⟨keys⟩
    | (keyId, pem) :: files => match keyOfPem pem with
      | .error f => .error f
      | .ok key => go (Entries.set keyId key keys) files

/-- The ending of the names of key files. -/
def fileEnding : Text := ".pem"

/-- The key id that a file name stands for: the name without its ending, unless nothing else
would be left. -/
def keyIdOfFile (name : Text) : Text :=
  if name = fileEnding then name else name.take (name.length - fileEnding.length)

/-- The ring of a directory, whose key files are loaded in the order of their names. -/
def ofDirectory (files : List (Text × Text)) : Except RingFault KeyRing :=
  let keyFiles := files.filter fun (name, _) => name.endsWith fileEnding
  let inOrder := keyFiles.mergeSort fun a b => a.1.le b.1
  ofPems (inOrder.map fun (name, pem) => (keyIdOfFile name, pem))

end KeyRing

end Issuance
