import Issuance.Text.CodePoint

/-!
# Issuance.Text.Path

**File paths** in their normal form.
-/

namespace Issuance

namespace Text

/-- A path without repeated slashes, steps in place and a slash at its end. Exactly two slashes
at its beginning are kept. -/
def normalPath (t : Text) : Text :=
  let root : Text :=
    if t.startsWith "//" && !t.startsWith "///" then "//"
    else if t.startsWith "/" then "/" else []
  let steps := (Text.pieces (· = '/') t).filter fun s => !s.isEmpty && s ≠ ("." : Text)
  let path := root ++ Text.joined "/" steps
  if path.isEmpty then "." else path

end Text

end Issuance
