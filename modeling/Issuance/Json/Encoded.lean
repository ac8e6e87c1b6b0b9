import Issuance.Json.Reader
import Issuance.Text.Wide

/-!
# Issuance.Json.Encoded

**JSON documents as bytes.** The encoding is told from a byte-order mark or, without one, from
where zero bytes stand among the first four: JSON text begins with ASCII. Lone surrogates pass
in every encoding.
-/

namespace Issuance

namespace Json

/-- Why bytes are not a JSON document. -/
inductive DocumentFault
  /-- The bytes are not text in their encoding. -/
  | notText
  /-- The text is not JSON. -/
  | notJson
  deriving DecidableEq

/-- The text of a document, its encoding told from its first bytes. -/
def documentText? (bs : Bytes) : Option Text :=
  match bs with
  | 0x00 :: 0x00 :: 0xFE :: 0xFF :: rest => Utf32.decode? .bigEndian rest
  | 0xFF :: 0xFE :: 0x00 :: 0x00 :: rest => Utf32.decode? .littleEndian rest
  | 0xFE :: 0xFF :: rest => Utf16.decode? .bigEndian rest
  | 0xFF :: 0xFE :: rest => Utf16.decode? .littleEndian rest
  | 0xEF :: 0xBB :: 0xBF :: rest => Utf8.decodeWide? rest
  | a :: b :: c :: d :: _ =>
    if a = 0 then if b = 0 then Utf32.decode? .bigEndian bs else Utf16.decode? .bigEndian bs
    else if b = 0 then
      if c = 0 ∧ d = 0 then Utf32.decode? .littleEndian bs else Utf16.decode? .littleEndian bs
    else Utf8.decodeWide? bs
  | [a, b] =>
    if a = 0 then Utf16.decode? .bigEndian bs
    else if b = 0 then Utf16.decode? .littleEndian bs
    else Utf8.decodeWide? bs
  | _ => Utf8.decodeWide? bs

/-- The value of a document given as bytes. -/
def ofBytes (bs : Bytes) : Except DocumentFault Json :=
  match documentText? bs with
  | none => .error .notText
  | some t => match read? t with
    | none => .error .notJson
    | some v => .ok v

/-- The value of a document given as text. -/
def ofText (t : Text) : Except DocumentFault Json :=
  match read? t with
  | none => .error .notJson
  | some v => .ok v

end Json

end Issuance
