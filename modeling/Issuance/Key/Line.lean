import Issuance.Key.Verification

/-!
# Issuance.Key.Line

**Keys in the one-line form** of remote logins: the name of a kind, white space, and Base64 of a
row of strings, each with its length in four bytes before it. The first string is the name of the
kind again. A line may also hold a certificate, which has more around the key and after it; who
issued the certificate is of no concern here.
-/

namespace Issuance

namespace KeyLine

/-- White space of ASCII. -/
def isSpace (c : CodePoint) : Bool := c = ' ' || (0x09 ≤ c.value && c.value ≤ 0x0D)

/-- The two words that a line begins with, on one line of text. -/
def words? (t : Text) : Option (Text × Text) :=
  let kind := t.takeWhile fun c => !isSpace c
  let rest := t.drop kind.length
  let blanks := rest.takeWhile fun (c : CodePoint) => c = ' ' || c = '\t'
  let body := (rest.drop blanks.length).takeWhile fun c => !isSpace c
  if kind.isEmpty || blanks.isEmpty || body.isEmpty then none else some (kind, body)

/-- A string with its length before it, and what follows. -/
def string? (bs : Bytes) : Option (Bytes × Bytes) :=
  let n := Bytes.toNat (bs.take 4)
  let rest := bs.drop 4
  if bs.length < 4 ∨ rest.length < n then none else some (rest.take n, rest.drop n)

/-- A number that is not negative, as a string of its digits in base 256. -/
def natural? (bs : Bytes) : Option (Nat × Bytes) :=
  match string? bs with
  | some (digits, rest) =>
    if digits.head?.getD 0 < 0x80 then some (Bytes.toNat digits, rest) else none
  | none => none

/-- The name of a curve in this form. -/
def curveName? : NamedCurve → Option Text
  | .p256 => some "nistp256"
  | .p384 => some "nistp384"
  | .p521 => some "nistp521"
  | _ => none

/-- The curve that the name of a kind ends in. -/
def curveOfKind? (kind : Text) : Option NamedCurve :=
  NamedCurve.all.find? fun c => (curveName? c).map (("ecdsa-sha2-" : Text) ++ ·) = some kind

/-- Reads a key on a curve: the name of the curve again, and the point with both coordinates. -/
def readCurve (curve : NamedCurve) (bs : Bytes) : Except KeyFault (VerificationKey × Bytes) := do
  let (name, r) ← KeyFault.orUnreadable (string? bs)
  let (point, r) ← KeyFault.orUnreadable (string? r)
  if some (Bytes.toAscii name) ≠ curveName? curve ∨ point.isEmpty then .error .unreadable
  else if point.head? ≠ some 4 then .error .unsupported
  else
    let key ← KeyFault.orUnreadable (VerificationKey.ofEncodedPoint? curve point)
    .ok (key, r)

/-- Reads an RSA key: the exponent and the modulus. -/
def readRsa? (bs : Bytes) : Option (VerificationKey × Bytes) := do
  let (e, r) ← natural? bs
  let (n, r) ← natural? r
  let key ← VerificationKey.ofRsa? n e
  some (key, r)

/-- Reads a key on the smaller Edwards curve. -/
def readEdwards? (bs : Bytes) : Option (VerificationKey × Bytes) := do
  let (x, r) ← string? bs
  if x.length = EdwardsCurve.ed25519.size then some (.edwards .ed25519 x, r) else none

/-- Reads a key of the oldest kind: a prime of 1024 bits, the order of a base, the base, and a power
of it. -/
def readPower? (bs : Bytes) : Option (VerificationKey × Bytes) := do
  let (p, r) ← natural? bs
  let (q, r) ← natural? r
  let (g, r) ← natural? r
  let (_, r) ← natural? r
  if p.log2 = 1023 ∧ [159, 223, 255].contains q.log2 ∧ 1 < g ∧ g < p then some (.other, r)
  else none

/-- Reads a key of a kind. -/
def readKey (kind : Text) (bs : Bytes) : Except KeyFault (VerificationKey × Bytes) :=
  match curveOfKind? kind with
  | some curve => readCurve curve bs
  | none =>
    if kind = "ssh-rsa" then KeyFault.orUnreadable (readRsa? bs)
    else if kind = "ssh-ed25519" then KeyFault.orUnreadable (readEdwards? bs)
    else if kind = "ssh-dss" then KeyFault.orUnreadable (readPower? bs)
    else .error .unsupported

/-- Whether a kind is known. -/
def isKnown (kind : Text) : Bool :=
  (curveOfKind? kind).isSome || kind = "ssh-rsa" || kind = "ssh-ed25519" || kind = "ssh-dss"

/-! ### Certificates -/

/-- The ending of the kinds of certificates. -/
def certificateEnding : Text := "-cert-v01@openssh.com"

/-- What follows a number of so many bytes. -/
def afterNumber? (size : Nat) (bs : Bytes) : Option Bytes :=
  if bs.length < size then none else some (bs.drop size)

/-- Whether bytes are a row of strings, at most so many. -/
def isRowOfStrings : Nat → Bytes → Bool
  | 0, bs => bs.isEmpty
  | count + 1, bs => bs.isEmpty || (match string? bs with
    | some (_, rest) => isRowOfStrings count rest
    | none => false)

/-- Whether bytes are a row of options, at most so many: names in ascending order, all different,
each with a string that is empty or a string itself. -/
def areOptions : Nat → Option Bytes → Bytes → Bool
  | 0, _, bs => bs.isEmpty
  | count + 1, last, bs => bs.isEmpty || (match string? bs with
    | none => false
    | some (name, rest) => match string? rest with
      | none => false
      | some (value, rest) =>
        last.all (fun l => Text.le (Bytes.toAscii l) (Bytes.toAscii name) && l != name) &&
          (value.isEmpty || (Der.only? (string? value)).isSome) &&
          areOptions count (some name) rest)

/-- The kinds of signatures that a certificate may have, by the kind of the key that issued it. -/
def signatureKinds (issuer : Text) : List Text :=
  if issuer = "ssh-rsa" then ["rsa-sha2-256", "rsa-sha2-512", "ssh-rsa"] else [issuer]

/-- Whether bytes are what a certificate has after its key: a number, a kind, a name, for whom and
when it is good, options, and who signed it how. -/
def isCertificateTail (bs : Bytes) : Bool :=
  (do
    let r ← afterNumber? 8 bs
    let r ← afterNumber? 4 r
    let (_, r) ← string? r
    let (principals, r) ← string? r
    let r ← afterNumber? 16 r
    let (critical, r) ← string? r
    let (extensions, r) ← string? r
    let (_, r) ← string? r
    let (issuer, r) ← string? r
    let (issuerKind, _) ← string? issuer
    let signed ← Der.only? (string? r)
    let (signatureKind, s) ← string? signed
    let _ ← Der.only? (string? s)
    let rowLength (row : Bytes) : Nat := row.length / 4
    some (isRowOfStrings (rowLength principals) principals &&
      areOptions (rowLength critical) none critical &&
      areOptions (rowLength extensions) none extensions &&
      (signatureKinds (Bytes.toAscii issuerKind)).contains (Bytes.toAscii signatureKind))
    : Option Bool).getD false

/-- The key in a certificate of a kind, after the name of the kind. -/
def ofCertificate (kind : Text) (bs : Bytes) : Except KeyFault VerificationKey := do
  let (_, r) ← KeyFault.orUnreadable (string? bs)
  let (key, r) ← readKey kind r
  if isCertificateTail r then .ok key else .error .unreadable

/-- The key on a line. -/
def read (t : Text) : Except KeyFault VerificationKey :=
  match words? t with
  | none => .error .unreadable
  | some (kind, body) =>
    let isCertificate := kind.endsWith certificateEnding
    let plain := if isCertificate then kind.take (kind.length - certificateEnding.length) else kind
    if !isKnown plain then .error .unsupported
    else do
      let bs ← KeyFault.orUnreadable (Base64.decodeFrom Base64.standardValue? 0 0 0 body)
      let (inner, rest) ← KeyFault.orUnreadable (string? bs)
      if Bytes.toAscii inner ≠ kind then .error .unreadable
      else if isCertificate then ofCertificate plain rest
      else
        let (key, rest) ← readKey plain rest
        if rest.isEmpty then .ok key else .error .unreadable

end KeyLine

end Issuance
