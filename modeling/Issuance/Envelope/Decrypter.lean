import Issuance.Envelope.Compact

/-!
# Issuance.Envelope.Decrypter

**Opening envelopes.** A `Decrypter` asks a key service to unwrap the content key. Without key
rotation it asks for one key; with rotation it walks the **candidates** in order, and at the end
the legacy key if that is allowed, and stops at the first that unwraps. Only then is the content
decrypted, so a wrong tag does not make it try another key.

An `Opening` records, beside the result, which key ids were asked for and whether every candidate
failed.
-/

namespace Issuance

namespace Envelope

/-- A key to try: the name it goes by in reports, and its id. -/
structure Candidate where
  name : Text
  keyId : Text
  deriving DecidableEq

namespace Candidate

/-- The keys of a rotation. -/
def rotation : List Candidate :=
  [⟨"active", "session_decryption_key_active_alias"⟩,
    ⟨"inactive", "session_decryption_key_inactive_alias"⟩,
    ⟨"previous", "session_decryption_key_previous_alias"⟩]

end Candidate

/-- What came of trying candidates: the key that was unwrapped with the name of its candidate,
the failures before it, and the key ids asked for, in order. -/
structure Walk where
  success : Option (Bytes × Text)
  attempts : List Attempt
  asked : List Text

/-- Tries candidates in order up to the first that unwraps. -/
def walk (service : KeyService) (wrapped : Bytes) : List Candidate → Walk
  | [] => ⟨none, [], []⟩
  | c :: cs =>
    match service c.keyId wrapped with
    | .ok key => ⟨some (key, c.name), [], [c.keyId]⟩
    | .error _ =>
      let rest := walk service wrapped cs
      ⟨rest.success, ⟨c.name, KeyUnavailable.label⟩ :: rest.attempts, c.keyId :: rest.asked⟩

/-- What came of opening an envelope. -/
structure Opening where
  result : Except Fault Bytes
  /-- The key ids asked for, in order. -/
  asked : List Text
  /-- All candidates of a rotation failed. -/
  exhausted : Bool

/-- How envelopes are opened. -/
structure Decrypter where
  keyId : Text
  keyRotation : Bool
  legacyFallback : Bool
  candidates : List Candidate
  deriving DecidableEq

/-- Decrypts content. Lengths are checked before the cipher is touched. -/
def decryptContent (contentKey initialValue cipherText tag additional : Bytes) :
    Except Fault Bytes :=
  if contentKey.length ≠ 32 then .error (.contentKeyLength contentKey.length)
  else if tag.length ≠ 16 then .error (.tagLength tag.length)
  else if initialValue.length < 8 ∨ 128 < initialValue.length then .error .initialValueLength
  else match Gcm.decrypt? contentKey initialValue additional cipherText tag with
    | some payload => .ok payload
    | none => .error .tagMismatch

namespace Decrypter

/-- The candidates to try under rotation, the legacy key last. -/
def chain (d : Decrypter) : List Candidate :=
  if d.legacyFallback then d.candidates ++ [⟨"legacy", d.keyId⟩] else d.candidates

/-- Unwraps the content key: the key or the fault, with what was asked for. -/
def unwrapContentKey (d : Decrypter) (service : KeyService) (wrapped : Bytes) : Opening :=
  if d.keyRotation then
    let w := walk service wrapped d.chain
    match w.success with
    | some (key, _) => ⟨.ok key, w.asked, false⟩
    | none => ⟨.error (.exhausted w.attempts), w.asked, true⟩
  else match service d.keyId wrapped with
    | .ok key => ⟨.ok key, [d.keyId], false⟩
    | .error _ => ⟨.error (.unwrapFailed d.keyId), [d.keyId], false⟩

/-- The wrapped key, initial value and tag of an envelope that has them and names the supported
algorithms. -/
def requirements (e : Envelope) : Except Fault (Bytes × Bytes × Bytes) :=
  match e.wrappedKey, e.initialValue, e.tag with
  | none, _, _ => .error .missingKey
  | _, none, _ => .error .missingInitialValue
  | _, _, none => .error .missingTag
  | some wrapped, some initialValue, some tag =>
    if e.header.algorithm = .str supportedAlgorithm ∧ e.header.method = .str supportedMethod then
      .ok (wrapped, initialValue, tag)
    else .error (.unsupported e.header.algorithm e.header.method)

/-- Opens an envelope. -/
def decrypt (d : Decrypter) (service : KeyService) (e : Envelope) : Opening :=
  match requirements e with
  | .error f => ⟨.error f, [], false⟩
  | .ok (wrapped, initialValue, tag) =>
    let unwrapped := d.unwrapContentKey service wrapped
    match unwrapped.result with
    | .error _ => unwrapped
    | .ok key =>
      match e.header.additional? with
      | none => ⟨.error .headerNotAscii, unwrapped.asked, false⟩
      | some additional =>
        ⟨decryptContent key initialValue e.cipherText tag additional, unwrapped.asked, false⟩

/-- Opens an envelope in compact form. -/
def decryptCompact (d : Decrypter) (service : KeyService) (serialized : Text) : Opening :=
  match parse serialized with
  | .error f => ⟨.error f, [], false⟩
  | .ok e => d.decrypt service e

end Decrypter

end Envelope

end Issuance
