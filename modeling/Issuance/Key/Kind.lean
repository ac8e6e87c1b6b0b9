import Issuance.Crypto.Edwards
import Issuance.Key.NamedCurve

/-!
# Issuance.Key.Kind

**The kinds of keys** that a key in the general form may have: there an object identifier names
the kind, and parameters may follow, of which each kind has its own.
-/

namespace Issuance

/-- What the general form says of the kind of its key. -/
inductive KeyKind
  | rsa
  | curve (parameters : CurveParameters)
  | edwards (curve : EdwardsCurve)
  /-- A key of this many bytes for agreement. -/
  | raw (size : Nat)
  /-- A key that is a power of one number modulo another. -/
  | power
  | unknown
  deriving DecidableEq

namespace KeyKind

/-- The identifiers of kinds. -/
def rsaName : Bytes := [0x2A, 0x86, 0x48, 0x86, 0xF7, 0x0D, 0x01, 0x01, 0x01]
def rsaPssName : Bytes := [0x2A, 0x86, 0x48, 0x86, 0xF7, 0x0D, 0x01, 0x01, 0x0A]
def curveName : Bytes := [0x2A, 0x86, 0x48, 0xCE, 0x3D, 0x02, 0x01]

/-- The identifiers of the kinds of keys on Edwards curves. -/
def edwardsNames : List (Bytes × EdwardsCurve) :=
  [([0x2B, 0x65, 0x70], .ed25519), ([0x2B, 0x65, 0x71], .ed448)]

/-- The identifiers of kinds of which a key is a row of bytes, with the length of the row. -/
def rawNames : List (Bytes × Nat) :=
  [([0x2B, 0x65, 0x6E], 32), ([0x2B, 0x65, 0x6F], 56)]

/-- The identifiers of kinds of which a key is a power: for signatures, and two for agreement. -/
def signaturePowerName : Bytes := [0x2A, 0x86, 0x48, 0xCE, 0x38, 0x04, 0x01]
def basicPowerName : Bytes := [0x2A, 0x86, 0x48, 0x86, 0xF7, 0x0D, 0x01, 0x03, 0x01]
def extendedPowerName : Bytes := [0x2A, 0x86, 0x48, 0xCE, 0x3E, 0x02, 0x01]

/-- Whether bytes are an algorithm's identifier with parameters of whatever kind. -/
def isAlgorithm (bs : Bytes) : Bool :=
  match Der.only? (Der.sequence? bs) with
  | none => false
  | some contents => match Der.identifier? contents with
    | none => false
    | some (_, parameters) => parameters.isEmpty || Der.isElement parameters

/-- Whether bytes are parameters of the padding with a salt: a hash function, a mask, the length
of the salt, and a trailer, each of which may be absent. -/
def isPssParameters (bs : Bytes) : Bool :=
  (do
    let contents ← Der.only? (Der.sequence? bs)
    let (hash, r) ← Der.optional? 0xA0 contents
    let (mask, r) ← Der.optional? 0xA1 r
    let (salt, r) ← Der.optional? 0xA2 r
    let (trailer, r) ← Der.optional? 0xA3 r
    let isNumber (n : Bytes) : Bool := (Der.only? (Der.natural? n)).isSome
    some (r.isEmpty && hash.all isAlgorithm && mask.all isAlgorithm && salt.all isNumber &&
      trailer.all isNumber) : Option Bool).getD false

/-- What follows so many numbers in a sequence. -/
def afterNaturals? : Nat → Bytes → Option Bytes
  | 0, bs => some bs
  | count + 1, bs => (Der.natural? bs).bind fun (_, rest) => afterNaturals? count rest

/-- Whether bytes are nothing, or a number below a bound. -/
def isOptionalBelow (bound : Nat) (bs : Bytes) : Bool :=
  bs.isEmpty || (Der.only? (Der.natural? bs)).any (· < bound)

/-- Whether bytes tell how numbers were made: a seed and a count. -/
def isValidation (bs : Bytes) : Bool :=
  match (Der.only? (Der.sequence? bs)).bind Der.bits? with
  | some (_, rest) => (Der.only? (Der.natural? rest)).isSome
  | none => false

/-- Whether bytes are the parameters of a key that is a power: a modulus and a base, and with them
the order of the base, a length, or a factor and how the numbers were made. -/
def isPowerParameters (name bs : Bytes) : Bool :=
  match Der.only? (Der.sequence? bs) with
  | none => false
  | some contents =>
    if name = signaturePowerName then afterNaturals? 3 contents == some []
    else if name = basicPowerName then
      (afterNaturals? 2 contents).any (isOptionalBelow (Nat.pow 2 32))
    else match afterNaturals? 3 contents with
      | none => false
      | some rest => match Der.natural? rest with
        | some (_, rest) => rest.isEmpty || isValidation rest
        | none => rest.isEmpty || isValidation rest

/-- The identifiers of all kinds of which a key is a power. -/
def powerNames : List Bytes := [signaturePowerName, basicPowerName, extendedPowerName]

/-- The kind of an identifier with parameters. -/
def ofParts? (name parameters : Bytes) : Option KeyKind :=
  let given (isSound : Bool) (kind : KeyKind) := if isSound then some kind else none
  let isAbsent := parameters.isEmpty
  if name = rsaName then given (isAbsent || parameters == Der.null) rsa
  else if name = rsaPssName then given (isAbsent || isPssParameters parameters) rsa
  else if name = curveName then (CurveParameters.read? parameters).map curve
  else match edwardsNames.find? (·.1 = name), rawNames.find? (·.1 = name) with
    | some (_, c), _ => given isAbsent (edwards c)
    | _, some (_, size) => given isAbsent (raw size)
    | none, none =>
      if powerNames.contains name then given (isPowerParameters name parameters) power
      else given (isAbsent || Der.isElement parameters) unknown

/-- Reads the kind at the beginning of a row of bytes. -/
def read? (bs : Bytes) : Option (KeyKind × Bytes) := do
  let (contents, rest) ← Der.sequence? bs
  let (name, parameters) ← Der.identifier? contents
  let kind ← ofParts? name parameters
  some (kind, rest)

end KeyKind

end Issuance
