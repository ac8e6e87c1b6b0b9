import Issuance.Bytes.Basic
import Issuance.Text.Blank

/-!
# Issuance.Bytes.Base64

**Base64** in its two alphabets. `encodeUrl` writes the URL alphabet without padding, the form
of a segment in a compact serialisation. These readers stand beside it:

* `decode?` is forgiving: it skips what is not in the alphabet, stops at the padding that
  completes a group of four, and fails only if the text ends inside a group;
* `decodeUrl?` is `decode?` for the URL alphabet after trimming and after restoring padding;
* `decodeLoose?` is `decode?` for both alphabets at once, after restoring padding;
* `decodeStrictUrl?` accepts the URL alphabet alone, at most two characters of padding, and no
  set bit beyond the last byte, and `decodePadded?` the same of the standard alphabet, where
  padding must not be left out.
-/

namespace Issuance

namespace Base64

/-- The character of a 6-bit value in the URL alphabet. -/
def urlChar (v : Nat) : CodePoint :=
  CodePoint.ofNat <|
    if v < 26 then 0x41 + v
    else if v < 52 then 0x61 + (v - 26)
    else if v < 62 then 0x30 + (v - 52)
    else if v = 62 then 0x2D
    else 0x5F

/-- URL alphabet, no padding. -/
def encodeUrl : Bytes → Text
  | [] => []
  | [a] => [urlChar (a.toNat / 4), urlChar (a.toNat % 4 * 16)]
  | [a, b] =>
    [urlChar (a.toNat / 4), urlChar (a.toNat % 4 * 16 + b.toNat / 16), urlChar (b.toNat % 16 * 4)]
  | a :: b :: c :: rest =>
    urlChar (a.toNat / 4) :: urlChar (a.toNat % 4 * 16 + b.toNat / 16) ::
    urlChar (b.toNat % 16 * 4 + c.toNat / 64) :: urlChar (c.toNat % 64) :: encodeUrl rest

/-- The value of a letter or digit, which both alphabets share. -/
def letterOrDigit? (c : CodePoint) : Option Nat :=
  let n := c.value
  if 0x41 ≤ n ∧ n ≤ 0x5A then some (n - 0x41)
  else if 0x61 ≤ n ∧ n ≤ 0x7A then some (n - 0x61 + 26)
  else if 0x30 ≤ n ∧ n ≤ 0x39 then some (n - 0x30 + 52)
  else none

/-- The value of a character in the standard alphabet. -/
def standardValue? (c : CodePoint) : Option Nat :=
  if c.value = 0x2B then some 62 else if c.value = 0x2F then some 63 else letterOrDigit? c

/-- The value of a character in the URL alphabet. -/
def urlValue? (c : CodePoint) : Option Nat :=
  if c.value = 0x2D then some 62 else if c.value = 0x5F then some 63 else letterOrDigit? c

/-- The value of a character in either alphabet. -/
def eitherValue? (c : CodePoint) : Option Nat :=
  match urlValue? c with
  | some v => some v
  | none => standardValue? c

/-- The forgiving reader. `place` counts the characters read of the present group of four,
`carry` holds their bits that are not yet part of a byte, and `pads` the padding seen since the
last of them. -/
def decodeFrom (value? : CodePoint → Option Nat) (place carry pads : Nat) :
    Text → Option Bytes
  | [] => if place = 0 then some [] else none
  | c :: t =>
    if c.value = 0x3D then
      if place < 2 then decodeFrom value? place carry pads t
      else if 4 ≤ place + (pads + 1) then some []
      else decodeFrom value? place carry (pads + 1) t
    else match value? c with
      | none => decodeFrom value? place carry pads t
      | some v =>
        match place with
        | 0 => decodeFrom value? 1 v 0 t
        | 1 => (decodeFrom value? 2 (v % 16) 0 t).map (UInt8.ofNat (carry * 4 + v / 16) :: ·)
        | 2 => (decodeFrom value? 3 (v % 4) 0 t).map (UInt8.ofNat (carry * 16 + v / 4) :: ·)
        | _ => (decodeFrom value? 0 0 0 t).map (UInt8.ofNat (carry * 64 + v) :: ·)

/-- Why a text is not the Base64 form of anything. -/
inductive Fault
  /-- A character is beyond ASCII. -/
  | notAscii
  /-- The text ends inside a group of four. -/
  | incomplete
  deriving DecidableEq

/-- Forgiving reading in the standard alphabet. -/
def decode? (t : Text) : Except Fault Bytes :=
  if !t.isAscii then .error .notAscii
  else match decodeFrom standardValue? 0 0 0 t with
    | some bs => .ok bs
    | none => .error .incomplete

/-- The padding that brings a text to whole groups of four. -/
def padding (t : Text) : Text := List.replicate ((4 - t.length % 4) % 4) ('=' : CodePoint)

/-- Forgiving reading of a segment, whose surrounding blanks and missing padding do not
matter. -/
def decodeUrl? (t : Text) : Except Fault Bytes :=
  let s := t.trim
  if !s.isAscii then .error .notAscii
  else match decodeFrom eitherValue? 0 0 0 (s ++ padding s) with
    | some bs => .ok bs
    | none => .error .incomplete

/-- Forgiving reading in either alphabet, after restoring the padding that is missing from a
whole group of four. A character beyond ASCII counts as often as it takes bytes. -/
def decodeLoose? (t : Text) : Option Bytes := do
  let bytes ← Utf8.encode? t
  let s := Bytes.toAscii bytes
  decodeFrom eitherValue? 0 0 0 (s ++ padding s)

/-- Strict reading of what stands before the padding: the alphabet alone, and no set bit beyond
the last byte. -/
def decodeExactly? (value? : CodePoint → Option Nat) : Text → Option Bytes
  | [] => some []
  | [_] => none
  | [a, b] => do
    let x ← value? a
    let y ← value? b
    if y % 16 = 0 then some [UInt8.ofNat (x * 4 + y / 16)] else none
  | [a, b, c] => do
    let x ← value? a
    let y ← value? b
    let z ← value? c
    if z % 4 = 0 then
      some [UInt8.ofNat (x * 4 + y / 16), UInt8.ofNat (y % 16 * 16 + z / 4)]
    else none
  | a :: b :: c :: d :: t => do
    let x ← value? a
    let y ← value? b
    let z ← value? c
    let w ← value? d
    let rest ← decodeExactly? value? t
    some (UInt8.ofNat (x * 4 + y / 16) :: UInt8.ofNat (y % 16 * 16 + z / 4) ::
      UInt8.ofNat (z % 4 * 64 + w) :: rest)

/-- Strict reading in an alphabet, with the padding that completes the last group. -/
def decodeCompleted? (value? : CodePoint → Option Nat) (t : Text) : Option Bytes :=
  let body := Text.trimEndBy (·.value == 0x3D) t
  if t.length - body.length ≤ 2 ∧ t.length % 4 = 0 then decodeExactly? value? body else none

/-- Strict reading in the standard alphabet. -/
def decodePadded? (t : Text) : Option Bytes := decodeCompleted? standardValue? t

/-- Strict reading in the URL alphabet. Padding may be left out; where it stands, it completes the
last group. -/
def decodeStrictUrl? (t : Text) : Option Bytes :=
  if t.getLast? = some ('=' : CodePoint) then decodeCompleted? urlValue? t
  else decodeExactly? urlValue? t

end Base64

end Issuance
