import Issuance.Json.Value
import Issuance.Json.Shortest
import Issuance.Bytes.Hex
import Issuance.Text.Printable

/-!
# Issuance.Json.Display

**How a value is shown in the details of an error.** A text on its own is shown bare or, by
`quoted`, between quotes; inside lists and objects it is always quoted. Words begin with a
capital, and `None` stands for `null`.
-/

namespace Issuance

namespace Text

/-- A code point that has no printed form, by its number. -/
def numberEscape (c : CodePoint) : Text :=
  if c.value < 0x100 then "\\x" ++ Hex.fixed 2 c.value
  else if c.value < 0x10000 then "\\u" ++ Hex.fixed 4 c.value
  else "\\U" ++ Hex.fixed 8 c.value

/-- A code point between quotes. -/
def quotedPoint (quote c : CodePoint) : Text :=
  if c = quote ∨ c = '\\' then ['\\', c]
  else if c.value = 0x0A then "\\n"
  else if c.value = 0x0D then "\\r"
  else if c.value = 0x09 then "\\t"
  else if c.isPrintable then [c]
  else numberEscape c

/-- A text between quotes: single ones, unless it holds a single quote and no double one. -/
def quoted (t : Text) : Text :=
  let quote : CodePoint := if t.contains ['\''] && !t.contains ['"'] then '"' else '\''
  [quote] ++ t.flatMap (quotedPoint quote) ++ [quote]

end Text

namespace Json

/-- The numbers without a decimal have these names when shown. -/
def shownNumberNames : Binary64.SpecialNames := ⟨"nan", "inf"⟩

mutual

/-- A value with its text quoted. -/
def quoted : Json → Text
  | .null => "None"
  | .bool b => if b then "True" else "False"
  | .int i => Text.ofInt i
  | .float x => x.text shownNumberNames
  | .str t => t.quoted
  | .arr items => "[" ++ Text.joined ", " (quotedItems items) ++ "]"
  | .obj members => "\x7b" ++ Text.joined ", " (quotedMembers members) ++ "\x7d"

/-- The items of a list, quoted. -/
def quotedItems : List Json → List Text
  | [] => []
  | v :: vs => quoted v :: quotedItems vs

/-- The members of an object, quoted. -/
def quotedMembers : List (Text × Json) → List Text
  | [] => []
  | (k, v) :: ms => (k.quoted ++ ": " ++ quoted v) :: quotedMembers ms

end

/-- A value as shown on its own: a text bare, all else quoted. -/
def shown : Json → Text
  | .str t => t
  | v => quoted v

end Json

end Issuance
