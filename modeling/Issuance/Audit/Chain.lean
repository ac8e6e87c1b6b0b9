import Issuance.Bytes.Hex
import Issuance.Crypto.Sha3
import Issuance.Json.Writer

/-!
# Issuance.Audit.Chain

**The hash chain** of the audit log. The hash of an event is the SHA3-256 digest of the bytes of
the hash before it, followed by the canonical form of the event without its own two chain fields.
The chain begins at 64 zeros. A line of the log is an event with both hashes, in canonical form.
-/

namespace Issuance

namespace Audit

/-- The hash before the first event. -/
def genesis : Text := List.replicate 64 ('0' : CodePoint)

/-- The fields that link an event into the chain. -/
def previousField : Text := "prev_hash"
def hashField : Text := "hash"

/-- An event without its chain fields. -/
def unlinked (event : List (Text × Json)) : List (Text × Json) :=
  Entries.erase hashField (Entries.erase previousField event)

/-- Why an event has no hash. -/
inductive ChainFault
  /-- The hash before it is not hexadecimal. -/
  | notHex
  /-- The event holds a lone surrogate. -/
  | notEncodable
  deriving DecidableEq

/-- What is hashed for an event: the bytes of the hash before it and its own canonical form. -/
def hashInput (previous : Text) (event : List (Text × Json)) : Except ChainFault Bytes :=
  match Hex.decode? previous with
  | none => .error .notHex
  | some head => match Json.canonicalBytes? (.obj (unlinked event)) with
    | none => .error .notEncodable
    | some body => .ok (head ++ body)

/-- The hash of bytes. -/
def digest (bs : Bytes) : Text := Hex.encode (Hash.sha3.digest bs)

/-- The hash of an event after another. -/
def chainHash (previous : Text) (event : List (Text × Json)) : Except ChainFault Text :=
  (hashInput previous event).map digest

/-- Whether a text has 64 code points and can be read as hexadecimal. -/
def isHash (t : Text) : Bool := t.length == 64 && (Hex.decode? t).isSome

/-- An event with its chain fields. -/
def linked (previous hash : Text) (event : List (Text × Json)) : List (Text × Json) :=
  Entries.set hashField (.str hash)
    (Entries.set previousField (.str previous) (unlinked event))

end Audit

end Issuance
