import Issuance.Text.CodePoint

/-!
# Issuance.Text.Blank

**Blank code points**: the separators of Unicode (`Zs`, `Zl`, `Zp`), the controls that move to
another column or line, and the four information separators `U+001C` to `U+001F`. Zero-width
characters are not blank. Fields of a request are trimmed by this class, and scopes are
separated by it.
-/

namespace Issuance

namespace CodePoint

/-- Whether a code point separates words. -/
def isBlank (c : CodePoint) : Bool :=
  (0x09 ≤ c.value && c.value ≤ 0x0D) || (0x1C ≤ c.value && c.value ≤ 0x20) ||
  c.value == 0x85 || c.value == 0xA0 || c.value == 0x1680 ||
  (0x2000 ≤ c.value && c.value ≤ 0x200A) ||
  c.value == 0x2028 || c.value == 0x2029 || c.value == 0x202F || c.value == 0x205F ||
  c.value == 0x3000

/-- Blank apart from the information separators: the white space that a numeral may carry
around it. -/
def isWhiteSpace (c : CodePoint) : Bool :=
  c.isBlank && !(0x1C ≤ c.value && c.value ≤ 0x1F)

end CodePoint

namespace Text

/-- A text without the code points of a class at its end. -/
def trimEndBy (p : CodePoint → Bool) : Text → Text
  | [] => []
  | c :: t => match trimEndBy p t with
    | [] => if p c then [] else [c]
    | u => c :: u

/-- A text without the code points of a class at either end. -/
def trimBy (p : CodePoint → Bool) (t : Text) : Text := trimEndBy p (t.dropWhile p)

/-- A text without surrounding blanks. -/
def trim (t : Text) : Text := trimBy CodePoint.isBlank t

/-- The longest runs of code points that are not blank, in order. -/
def words (t : Text) : List Text := (pieces CodePoint.isBlank t).filter (!·.isEmpty)

/-- Every line break, whether `LF`, `CR LF` or `CR`, becomes `LF`. -/
def unifyLineBreaks : Text → Text
  | [] => []
  | [c] => if c.value = 0x0D then [CodePoint.ofNat 0x0A] else [c]
  | c :: d :: t =>
    if c.value = 0x0D then
      if d.value = 0x0A then d :: unifyLineBreaks t
      else CodePoint.ofNat 0x0A :: unifyLineBreaks (d :: t)
    else c :: unifyLineBreaks (d :: t)

/-- The lines of a text, whichever of the three line breaks ends them. What follows the last
break counts as a line, even if it is empty. -/
def lines (t : Text) : List Text := pieces (·.value == 0x0A) (unifyLineBreaks t)

end Text

end Issuance
