import Issuance.Bytes.Base64

/-!
# Issuance.Key.Pem

**PEM** blocks: Base64 between a boundary that begins a label and one that ends it. Before the
Base64 and separated by an empty line there may be a header of named values. What stands before a
block does not matter, nor does white space in the Base64.
-/

namespace Issuance

/-- A block: its label, the values of its header by name, and its contents. -/
structure Pem where
  label : Text
  header : List (Text × Text)
  contents : Bytes
  deriving DecidableEq

namespace Pem

/-- What stands before the first occurrence of a mark, and what follows it. -/
def splitAt? (mark : Text) : Text → Option (Text × Text)
  | [] => none
  | c :: t =>
    if Text.startsWith (c :: t) mark then some ([], (c :: t).drop mark.length)
    else (splitAt? mark t).map fun (before, after) => (c :: before, after)

/-- White space between a boundary and what follows it. -/
def isGap (c : CodePoint) : Bool := c = ' ' || c = '\t' || c = '\n' || c = '\r'

/-- A block in writing: its label, the text up to the boundary that ends it, and the label
there. -/
structure Section where
  label : Text
  body : Text
  endLabel : Text

/-- The first block in writing, and what follows it. -/
def section? (t : Text) : Option (Section × Text) :=
  match splitAt? "-----BEGIN " t with
  | none => none
  | some (_, u) => match splitAt? "-----" u with
    | none => none
    | some (label, u) => match splitAt? "-----END " (u.dropWhile isGap) with
      | none => none
      | some (body, u) => match splitAt? "-----" u with
        | none => none
        | some (endLabel, u) => some (⟨label, body, endLabel⟩, u)

/-- The blocks in writing, at most so many. -/
def sections : Nat → Text → List Section
  | 0, _ => []
  | count + 1, t => match section? t with
    | none => []
    | some (s, rest) => s :: sections count rest

/-- The header of a block in writing, and what follows the empty line after it. -/
def headerAndData (body : Text) : Text × Text :=
  match splitAt? "\n\n" body with
  | some r => r
  | none => match splitAt? "\r\n\r\n" body with
    | some r => r
    | none => ([], body)

/-- The lines of a text, without a last one that is empty. -/
def headerLines (t : Text) : List Text :=
  let lines := Text.pieces (· = '\n') t
  if lines.getLast? = some [] then lines.dropLast else lines

/-- The name and the value on a line of a header. -/
def headerValue? (line : Text) : Option (Text × Text) :=
  (Text.cut? (· = ':') line).map fun (name, value) =>
    (Text.trimBy CodePoint.isWhiteSpace name, Text.trimBy CodePoint.isWhiteSpace value)

/-- The block of a block in writing. Its labels must agree, each line of its header must have a
name, and its contents must be in the exact form of Base64. -/
def ofSection? (s : Section) : Option Pem := do
  let (header, data) := headerAndData s.body
  if s.label = [] ∨ s.label ≠ s.endLabel then none
  else
    let contents ← Base64.decodePadded? (data.filter fun c => !c.isWhiteSpace)
    let values ← (headerLines header).mapM headerValue?
    some ⟨s.label, values, contents⟩

/-- The first block of a text. -/
def read? (t : Text) : Option Pem := do
  let (s, _) ← section? t
  ofSection? s

/-- All blocks of a text, each of which must be sound. -/
def readAll? (t : Text) : Option (List Pem) := (sections t.length t).mapM ofSection?

/-- A value of the header. Of values of one name the last counts. -/
def value? (p : Pem) (name : Text) : Option Text :=
  (p.header.reverse.find? fun (n, _) => n = name).map (·.2)

end Pem

end Issuance
