import Issuance.Bytes.Basic

/-!
# Issuance.Key.Der

**DER** as far as keys need it: elements of definite length, and of their kinds sequences and
sets, integers, names of objects, and strings of octets and bits. Lengths and integers must be in
their shortest form.

A reader of an element takes a row of bytes that begins with it, and gives what it read and what
follows the element.
-/

namespace Issuance

namespace Der

/-- The length at the beginning of a row of bytes, and what follows it. -/
def length? : Bytes → Option (Nat × Bytes)
  | [] => none
  | b :: bs =>
    if b < 0x80 then some (b.toNat, bs)
    else
      let count := b.toNat - 0x80
      let digits := bs.take count
      if count = 0 ∨ digits.length < count ∨ digits.head? = some 0 ∨ Bytes.toNat digits < 0x80
      then none
      else some (Bytes.toNat digits, bs.drop count)

/-- The tag and the contents of an element with a tag of one byte, and what follows it. -/
def any? : Bytes → Option (UInt8 × Bytes × Bytes)
  | [] => none
  | b :: bs =>
    if b &&& 0x1F = 0x1F then none
    else match length? bs with
      | none => none
      | some (n, rest) => if rest.length < n then none else some (b, rest.take n, rest.drop n)

/-- The contents of an element with the given tag, and what follows it. -/
def element? (tag : UInt8) (bs : Bytes) : Option (Bytes × Bytes) :=
  match any? bs with
  | some (t, contents, rest) => if t = tag then some (contents, rest) else none
  | none => none

/-- The contents of an element that may be absent. -/
def optional? (tag : UInt8) (bs : Bytes) : Option (Option Bytes × Bytes) :=
  if bs.head? = some tag then (element? tag bs).map fun (contents, rest) => (some contents, rest)
  else some (none, bs)

/-- The elements of a sequence. -/
def sequence? : Bytes → Option (Bytes × Bytes) := element? 0x30

/-- The elements of a set. -/
def set? : Bytes → Option (Bytes × Bytes) := element? 0x31

/-- The contents of a string of octets. -/
def octets? : Bytes → Option (Bytes × Bytes) := element? 0x04

/-- Whether bytes are the contents of an object identifier: numbers of at most four digits in base
128, each in its shortest form. -/
def isIdentifier (bs : Bytes) : Bool :=
  !bs.isEmpty && bs.length ≤ 63 && areNumbers 0 bs
where
  /-- As before, after so many digits of a number that is not at its end. -/
  areNumbers : Nat → Bytes → Bool
    | count, [] => count == 0
    | count, b :: bs =>
      if b < 0x80 then count < 4 && areNumbers 0 bs
      else (count != 0 || b != 0x80) && areNumbers (count + 1) bs

/-- The contents of an object identifier. -/
def identifier? (bs : Bytes) : Option (Bytes × Bytes) :=
  match element? 0x06 bs with
  | some (contents, rest) => if isIdentifier contents then some (contents, rest) else none
  | none => none

/-- Whether bytes are the contents of an integer in its shortest form. -/
def isInteger : Bytes → Bool
  | [] => false
  | [_] => true
  | a :: b :: _ => !(a == 0 && b < 0x80) && !(a == 0xFF && 0x80 ≤ b)

/-- An integer that is not negative. -/
def natural? (bs : Bytes) : Option (Nat × Bytes) :=
  match element? 0x02 bs with
  | none => none
  | some (contents, rest) =>
    if isInteger contents ∧ (contents.head?.getD 0) < 0x80 then some (Bytes.toNat contents, rest)
    else none

/-- An integer that is not negative and takes one byte. -/
def small? (bs : Bytes) : Option (Nat × Bytes) :=
  (natural? bs).filter fun (n, _) => n < 0x100

/-- The octets of a string of bits. The bits that fill the last octet must be zero. -/
def bitContents? : Bytes → Option Bytes
  | [] => none
  | unused :: bs =>
    if unused < 8 ∧ (unused = 0 ∨ !bs.isEmpty) ∧
        (bs.getLastD 0).toNat % Nat.pow 2 unused.toNat = 0 then some bs
    else none

/-- A string of bits. -/
def bits? (bs : Bytes) : Option (Bytes × Bytes) :=
  match element? 0x03 bs with
  | some (contents, rest) => (bitContents? contents).map (·, rest)
  | none => none

/-- The element without contents. -/
def null : Bytes := [0x05, 0x00]

/-- The contents of an only element. -/
def only? {α : Type} (r : Option (α × Bytes)) : Option α :=
  match r with
  | some (x, []) => some x
  | _ => none

/-- Whether a row of bytes is one element. -/
def isElement (bs : Bytes) : Bool :=
  match any? bs with
  | some (_, _, rest) => rest.isEmpty
  | none => false

/-- Whether a row of bytes is a row of elements of one kind. -/
def isRowOf (item? : Bytes → Option Bytes) (bs : Bytes) : Bool := within bs.length bs
where
  /-- As before, with a bound on the number of elements. -/
  within : Nat → Bytes → Bool
    | _, [] => true
    | 0, _ :: _ => false
    | count + 1, b :: bs => match item? (b :: bs) with
      | some rest => within count rest
      | none => false

end Der

end Issuance
