import Issuance.Claims.Calendar
import Issuance.Key.Verification

/-!
# Issuance.Key.Certificate

**Certificates** bind a public key to a name. Here they are only recognised: `Certificate.isOne`
says whether bytes have the form of one. Whose it is, and whether its signature is right, is not
asked.
-/

namespace Issuance

namespace Certificate

/-- What follows an algorithm's identifier. -/
def algorithm? (bs : Bytes) : Option Bytes := (KeyKind.read? bs).map (·.2)

/-- What follows one entry of a name, the kind of which an identifier says. -/
def entry? (bs : Bytes) : Option Bytes := do
  let (contents, rest) ← Der.sequence? bs
  let (_, value) ← Der.identifier? contents
  if Der.isElement value then some rest else none

/-- What follows one part of a name, which is a set of entries. -/
def part? (bs : Bytes) : Option Bytes := do
  let (contents, rest) ← Der.set? bs
  if Der.isRowOf entry? contents then some rest else none

/-- What follows a name. -/
def name? (bs : Bytes) : Option Bytes := do
  let (contents, rest) ← Der.sequence? bs
  if Der.isRowOf part? contents then some rest else none

/-- Whether a text is a time: a year of so many digits, a month, a day, hours, minutes and
seconds. -/
def isTime (yearDigits : Nat) (t : Text) : Bool :=
  let digits := t.dropLast
  let pair (k : Nat) : Nat := Text.digitsValue ((digits.drop (yearDigits + 2 * k)).take 2)
  let year := Text.digitsValue (digits.take yearDigits)
  let fullYear := if yearDigits = 4 then year else if year < 50 then 2000 + year else 1900 + year
  t.getLast? = some ('Z' : CodePoint) && digits.length = yearDigits + 10 &&
    digits.all CodePoint.isDigit && Calendar.isDate fullYear (pair 0) (pair 1) &&
    pair 2 < 24 && pair 3 < 60 && pair 4 < 60

/-- What follows a time, which has a form with two digits of the year and one with four. -/
def time? (bs : Bytes) : Option Bytes :=
  match Der.any? bs with
  | some (tag, contents, rest) =>
    let t := Bytes.toAscii contents
    if tag = 0x17 ∧ isTime 2 t ∨ tag = 0x18 ∧ isTime 4 t then some rest else none
  | none => none

/-- What follows the times from which and to which a certificate is valid. -/
def validity? (bs : Bytes) : Option Bytes := do
  let (contents, rest) ← Der.sequence? bs
  let r ← time? contents
  let r ← time? r
  if r = [] then some rest else none

/-- What follows an extension: a name, whether it must be understood, and what it says. -/
def extension? (bs : Bytes) : Option Bytes := do
  let (contents, rest) ← Der.sequence? bs
  let (_, r) ← Der.identifier? contents
  let (critical, r) ← Der.optional? 0x01 r
  let (_, r) ← Der.octets? r
  if r = [] ∧ critical.all (· = [0xFF]) then some rest else none

/-- Whether bytes are the extensions of a certificate. -/
def areExtensions (bs : Bytes) : Bool :=
  match Der.only? (Der.sequence? bs) with
  | some contents => Der.isRowOf extension? contents
  | none => false

/-- Whether the version of a certificate, if it is given, is the third. -/
def isVersion (version : Option Bytes) : Bool :=
  match version with
  | none => true
  | some bs => Der.only? (Der.small? bs) = some 2

/-- Whether bytes are the contents of the signed part of a certificate. -/
def areContents (contents : Bytes) : Bool :=
  (do
    let (version, r) ← Der.optional? 0xA0 contents
    let (serial, r) ← Der.element? 0x02 r
    let r ← algorithm? r
    let r ← name? r
    let r ← validity? r
    let r ← name? r
    let (key, r) ← Der.sequence? r
    let (_, bits) ← KeyKind.read? key
    let _ ← Der.only? (Der.bits? bits)
    let (issuerId, r) ← Der.optional? 0x81 r
    let (subjectId, r) ← Der.optional? 0x82 r
    let (extensions, r) ← Der.optional? 0xA3 r
    let isBits (bs : Bytes) : Bool := (Der.bitContents? bs).isSome
    some (r.isEmpty && isVersion version && Der.isInteger serial && issuerId.all isBits &&
      subjectId.all isBits && extensions.all areExtensions) : Option Bool).getD false

/-- Whether bytes have the form of a certificate: what is signed, how, and the signature. -/
def isOne (bs : Bytes) : Bool :=
  (do
    let contents ← Der.only? (Der.sequence? bs)
    let (signed, r) ← Der.sequence? contents
    let r ← algorithm? r
    let _ ← Der.only? (Der.bits? r)
    some (areContents signed) : Option Bool).getD false

end Certificate

end Issuance
