/-!
# Issuance.Text.CodePoint

**Text** is a list of code points. An escape in a JSON document may name one half of a
surrogate pair on its own, so a code point is any number below `0x110000`, surrogates
included: the core's `Char` cannot hold such a half. Everything the issuer reads, compares
or writes as text is a `Text`; a string literal is one by coercion.
-/

namespace Issuance

/-- A Unicode code point, the surrogates included. -/
structure CodePoint where
  value : Nat
  value_lt : value < 0x110000
  deriving DecidableEq

namespace CodePoint

theorem eq_of_value_eq {a b : CodePoint} (h : a.value = b.value) : a = b := by
  cases a; cases b; simp_all

instance : Inhabited CodePoint := ⟨⟨0, by decide⟩⟩

/-- The code point of a character. -/
def ofChar (c : Char) : CodePoint where
  value := c.toNat
  value_lt := by
    have h := c.valid
    simp only [UInt32.isValidChar, Nat.isValidChar] at h
    show c.val.toNat < 0x110000
    omega

instance : Coe Char CodePoint := ⟨ofChar⟩

/-- The code point with a given number, or U+FFFD where there is none. -/
def ofNat (n : Nat) : CodePoint :=
  if h : n < 0x110000 then ⟨n, h⟩ else ⟨0xFFFD, by decide⟩

@[simp] theorem value_ofNat {n : Nat} (h : n < 0x110000) : (ofNat n).value = n := by
  simp [ofNat, h]

@[simp] theorem ofNat_value (c : CodePoint) : ofNat c.value = c := by
  simp [ofNat, c.value_lt]

/-- Halves of a surrogate pair stand for no character and have no encoded form. -/
def isSurrogate (c : CodePoint) : Bool := 0xD800 ≤ c.value && c.value < 0xE000

/-- The first half of a surrogate pair. -/
def isLeadSurrogate (c : CodePoint) : Bool := 0xD800 ≤ c.value && c.value < 0xDC00

/-- The second half of a surrogate pair. -/
def isTrailSurrogate (c : CodePoint) : Bool := 0xDC00 ≤ c.value && c.value < 0xE000

/-- One of the first 128 code points. -/
def isAscii (c : CodePoint) : Bool := c.value < 0x80

/-- One of the ten ASCII digits. -/
def isDigit (c : CodePoint) : Bool := 0x30 ≤ c.value && c.value ≤ 0x39

/-- The value of a hexadecimal digit, in either case. -/
def hexDigit? (c : CodePoint) : Option Nat :=
  if 0x30 ≤ c.value ∧ c.value ≤ 0x39 then some (c.value - 0x30)
  else if 0x41 ≤ c.value ∧ c.value ≤ 0x46 then some (c.value - 0x37)
  else if 0x61 ≤ c.value ∧ c.value ≤ 0x66 then some (c.value - 0x57)
  else none

/-- The digit of a number below sixteen, in lower case. -/
def ofHexDigit (n : Nat) : CodePoint := ofNat (if n < 10 then 0x30 + n else 0x57 + n)

/-- An ASCII capital becomes its small letter; every other code point stays. -/
def toLowerAscii (c : CodePoint) : CodePoint :=
  if 0x41 ≤ c.value ∧ c.value ≤ 0x5A then ofNat (c.value + 0x20) else c

/-- The code point that a surrogate pair stands for. -/
def ofSurrogates (lead trail : CodePoint) : CodePoint :=
  ofNat (0x10000 + (lead.value - 0xD800) * 0x400 + (trail.value - 0xDC00))

/-- The character of a code point; a surrogate, which has none, is shown as U+FFFD. -/
def toChar (c : CodePoint) : Char := if c.isSurrogate then '\uFFFD' else Char.ofNat c.value

end CodePoint

/-- Text is a list of code points. -/
abbrev Text := List CodePoint

namespace Text

/-- The text of a string. -/
def ofString (s : String) : Text := s.toList.map CodePoint.ofChar

instance : Coe String Text := ⟨ofString⟩

/-- The string of a text; a lone surrogate is shown as U+FFFD. -/
def toString (t : Text) : String := String.ofList (t.map CodePoint.toChar)

/-- Every code point is ASCII. -/
def isAscii (t : Text) : Bool := t.all CodePoint.isAscii

/-- The order by code points, a proper beginning before the longer text. -/
def le : Text → Text → Bool
  | [], _ => true
  | _ :: _, [] => false
  | a :: s, b :: t =>
    if a.value < b.value then true else if b.value < a.value then false else le s t

/-- The pieces between the code points that `p` picks. There is always at least one. -/
def pieces (p : CodePoint → Bool) : Text → List Text
  | [] => [[]]
  | c :: t =>
    if p c then [] :: pieces p t
    else match pieces p t with
      | [] => [[c]]
      | w :: ws => (c :: w) :: ws

theorem pieces_ne_nil (p : CodePoint → Bool) (t : Text) : pieces p t ≠ [] := by
  cases t with
  | nil => simp [pieces]
  | cons c t =>
    simp only [pieces]
    split
    · simp
    · split <;> simp

/-- The texts in order, with `separator` between neighbours. -/
def joined (separator : Text) : List Text → Text
  | [] => []
  | [t] => t
  | t :: u :: ts => t ++ separator ++ joined separator (u :: ts)

/-- Whether one text begins with another. -/
def startsWith : Text → Text → Bool
  | _, [] => true
  | [], _ :: _ => false
  | a :: s, b :: t => a == b && startsWith s t

/-- Whether one text ends with another. -/
def endsWith (t suffix : Text) : Bool := startsWith t.reverse suffix.reverse

/-- Whether one text occurs inside another. -/
def contains : Text → Text → Bool
  | [], part => part.isEmpty
  | c :: t, part => startsWith (c :: t) part || contains t part

/-- The code points before and after the first that `p` picks, which is dropped. -/
def cut? (p : CodePoint → Bool) : Text → Option (Text × Text)
  | [] => none
  | c :: t => if p c then some ([], t) else (cut? p t).map fun (a, b) => (c :: a, b)

/-- Decimal digits of a natural number, without leading zeros. -/
def ofNat (n : Nat) : Text :=
  if n < 10 then [CodePoint.ofNat (0x30 + n)]
  else ofNat (n / 10) ++ [CodePoint.ofNat (0x30 + n % 10)]

/-- Decimal notation of an integer. -/
def ofInt : Int → Text
  | .ofNat n => ofNat n
  | .negSucc n => CodePoint.ofChar '-' :: ofNat (n + 1)

/-- The number that a row of decimal digits stands for, read from the left. -/
def digitsValue (ds : Text) : Nat :=
  ds.foldl (fun n c => n * 10 + (c.value - 0x30)) 0

end Text

end Issuance
