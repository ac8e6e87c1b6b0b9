import Issuance.Json.Value
import Issuance.Json.Shortest
import Issuance.Bytes.Hex
import Issuance.Text.Utf8

/-!
# Issuance.Json.Writer

**Writing JSON text** without white space. A `Json.Style` says whether members are sorted and
whether text beyond ASCII is escaped. Two styles are in use: `Style.canonical`, whose UTF-8 form
is what the audit chain hashes and stores, and `Style.echo`, which is safe to show in a log.

As in `Json.Reader`, the limits of an interpreter on the nesting of values and on the digits of an
integer are left out: every value can be written.
-/

namespace Issuance

namespace Json

/-- The choices left open by the grammar. -/
structure Style where
  /-- Escape everything beyond the printable ASCII characters. -/
  asciiOnly : Bool
  /-- Put the members of every object in the order of their keys. -/
  sortedKeys : Bool

namespace Style

/-- One text for values that are equal up to the order of members. -/
def canonical : Style := ⟨false, true⟩

/-- Members in their own order, all of it printable ASCII. -/
def echo : Style := ⟨true, false⟩

end Style

/-- The numbers without a decimal have these names in JSON text. -/
def numberNames : Binary64.SpecialNames := ⟨"NaN", "Infinity"⟩

/-- The escape of a 16-bit unit. -/
def unitEscape (n : Nat) : Text := "\\u" ++ Hex.fixed 4 n

/-- The short escape of a code point that has one. -/
def shortEscape? (c : CodePoint) : Option Text :=
  if c = '"' then some "\\\""
  else if c = '\\' then some "\\\\"
  else if c.value = 0x08 then some "\\b"
  else if c.value = 0x0C then some "\\f"
  else if c.value = 0x0A then some "\\n"
  else if c.value = 0x0D then some "\\r"
  else if c.value = 0x09 then some "\\t"
  else none

/-- A code point inside a string. -/
def writePoint (asciiOnly : Bool) (c : CodePoint) : Text :=
  match shortEscape? c with
  | some e => e
  | none =>
    if c.value < 0x20 then unitEscape c.value
    else if !asciiOnly || c.value < 0x7F then [c]
    else if c.value < 0x10000 then unitEscape c.value
    else unitEscape (0xD800 + (c.value - 0x10000) / 0x400) ++
      unitEscape (0xDC00 + (c.value - 0x10000) % 0x400)

/-- A string with its quotes. -/
def writeString (asciiOnly : Bool) (t : Text) : Text :=
  "\"" ++ t.flatMap (writePoint asciiOnly) ++ "\""

/-- Written members in the order that the style asks for. -/
def Style.arrange (style : Style) (written : List (Text × Text)) : List (Text × Text) :=
  if style.sortedKeys then written.mergeSort fun a b => a.1.le b.1 else written

mutual

/-- The text of a value. -/
def write (style : Style) : Json → Text
  | .null => "null"
  | .bool b => if b then "true" else "false"
  | .int i => Text.ofInt i
  | .float x => x.text numberNames
  | .str t => writeString style.asciiOnly t
  | .arr items => "[" ++ Text.joined "," (writeItems style items) ++ "]"
  | .obj members =>
    "\x7b" ++ Text.joined "," ((style.arrange (writeMembers style members)).map Prod.snd) ++ "\x7d"

/-- The texts of the items of a list. -/
def writeItems (style : Style) : List Json → List Text
  | [] => []
  | v :: vs => write style v :: writeItems style vs

/-- The keys of an object, each with the text of its member. -/
def writeMembers (style : Style) : List (Text × Json) → List (Text × Text)
  | [] => []
  | (k, v) :: ms =>
    (k, writeString style.asciiOnly k ++ ":" ++ write style v) :: writeMembers style ms

end

/-- The canonical text. -/
def canonical (v : Json) : Text := write .canonical v

/-- The canonical text in UTF-8; none if the value holds a lone surrogate. -/
def canonicalBytes? (v : Json) : Option Bytes := Utf8.encode? (canonical v)

/-- The text to show in a log. -/
def echo (v : Json) : Text := write .echo v

end Json

end Issuance
