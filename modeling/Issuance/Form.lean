import Issuance.Bytes.Hex
import Issuance.Entries
import Issuance.Text.Utf8

/-!
# Issuance.Form

**URL-encoded forms**: parameters joined by `&`, each a name and a value joined by `=`, in which
a space is `+` and bytes of UTF-8 may be written as `%` and two hexadecimal digits. `Form.encode`
writes parameters; `Form.decode` reads any text, keeping a `%` that no two digits follow and
putting U+FFFD for bytes that are not UTF-8.
-/

namespace Issuance

namespace Form

/-- Code points that stand for themselves in a form: letters, digits and `- . _ ~`. -/
def isPlain (c : CodePoint) : Bool :=
  c.isDigit || (0x41 ≤ c.value && c.value ≤ 0x5A) || (0x61 ≤ c.value && c.value ≤ 0x7A) ||
  c = '-' || c = '.' || c = '_' || c = '~'

/-- A byte as `%` and two digits. -/
def percent (b : UInt8) : Text :=
  ['%', CodePoint.ofHexDigit (b.toNat / 16), CodePoint.ofHexDigit (b.toNat % 16)]

/-- A code point of a name or value. -/
def encodePoint (c : CodePoint) : Text :=
  if c = ' ' then "+"
  else if isPlain c then [c]
  else (Utf8.encodePoint c).flatMap percent

/-- A name or value. -/
def encodeText (t : Text) : Text := t.flatMap encodePoint

/-- A parameter with its value. -/
def encodeParameter (p : Text × Text) : Text := encodeText p.1 ++ "=" ++ encodeText p.2

/-- A form. -/
def encode (parameters : List (Text × Text)) : Text :=
  Text.joined "&" (parameters.map encodeParameter)

/-- The bytes of an ASCII text in which `%` and two digits stand for one byte. -/
def unescape : Text → Bytes
  | [] => []
  | [c] => [UInt8.ofNat c.value]
  | [c, d] => [UInt8.ofNat c.value, UInt8.ofNat d.value]
  | c :: d :: e :: t =>
    if c = '%' then
      match d.hexDigit?, e.hexDigit? with
      | some h, some l => UInt8.ofNat (h * 16 + l) :: unescape t
      | _, _ => UInt8.ofNat c.value :: unescape (d :: e :: t)
    else UInt8.ofNat c.value :: unescape (d :: e :: t)

/-- Reads escapes in a text. Bytes are decoded within each run of ASCII; other code points stay
as they are and end the run. -/
def decodeRuns (run : Text) : Text → Text
  | [] => Utf8.decodeLossy (unescape run.reverse)
  | c :: t =>
    if c.isAscii then decodeRuns (c :: run) t
    else Utf8.decodeLossy (unescape run.reverse) ++ c :: decodeRuns [] t

/-- A name or value read from a form. -/
def decodeText (t : Text) : Text :=
  decodeRuns [] (t.map fun (c : CodePoint) => if c = '+' then (' ' : CodePoint) else c)

/-- A parameter read from a form. Without `=` its value is empty. -/
def decodeParameter (t : Text) : Text × Text :=
  match Text.cut? (· = '=') t with
  | some (name, value) => (decodeText name, decodeText value)
  | none => (decodeText t, [])

/-- The parameters of a form in order. -/
def decode (t : Text) : List (Text × Text) :=
  ((Text.pieces (· = '&') t).filter (!·.isEmpty)).map decodeParameter

/-- The value of each parameter that a form names; of several with one name the last counts. -/
def parameters (t : Text) : Entries Text Text := Entries.ofList (decode t)

end Form

end Issuance
