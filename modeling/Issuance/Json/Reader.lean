import Issuance.Json.Value

/-!
# Issuance.Json.Reader

**Reading JSON text.** `Json.read?` takes a whole document. It follows the standard grammar and
goes past it in three ways: the words `NaN`, `Infinity` and `-Infinity` are numbers, an escape
may name a lone surrogate, and of members with the same name the last gives the value and the
first the place. A numeral with a fraction or an exponent is a floating-point number, any other
an integer.

The recursive readers take a bound on their depth of calls; a document's own length is enough,
since every call consumes at least one code point. The limits of an interpreter are left out: that
on how deep its calls may nest, by which a document of many hundred levels fails to be read, and
that of 4300 on the digits of an integer.
-/

namespace Issuance

namespace Json

/-- The white space of JSON. -/
def isSpace (c : CodePoint) : Bool :=
  c.value == 0x20 || c.value == 0x09 || c.value == 0x0A || c.value == 0x0D

/-- A text without the white space it begins with. -/
def skipSpace (t : Text) : Text := t.dropWhile isSpace

/-- The number named by four hexadecimal digits. -/
def hexUnit? (a b c d : CodePoint) : Option Nat :=
  match a.hexDigit?, b.hexDigit?, c.hexDigit?, d.hexDigit? with
  | some a, some b, some c, some d => some (((a * 16 + b) * 16 + c) * 16 + d)
  | _, _, _, _ => none

/-- The code point that a one-letter escape stands for. -/
def plainEscape? (c : CodePoint) : Option CodePoint :=
  if c = '"' ∨ c = '\\' ∨ c = '/' then some c
  else if c = 'b' then some (CodePoint.ofNat 0x08)
  else if c = 'f' then some (CodePoint.ofNat 0x0C)
  else if c = 'n' then some (CodePoint.ofNat 0x0A)
  else if c = 'r' then some (CodePoint.ofNat 0x0D)
  else if c = 't' then some (CodePoint.ofNat 0x09)
  else none

/-- The second half of a surrogate pair if the text begins with the escape of one. -/
def trailEscape? : Text → Option CodePoint
  | b :: u :: p :: q :: r :: s :: _ =>
    if b = '\\' ∧ u = 'u' then
      match hexUnit? p q r s with
      | some n => let c := CodePoint.ofNat n; if c.isTrailSurrogate then some c else none
      | none => none
    else none
  | _ => none

/-- Reads the inside of a string up to its closing quote. Escapes of the two halves of a
surrogate pair, one right after the other, give one code point. -/
def stringBody : Text → Option (Text × Text)
  | [] => none
  | c :: t =>
    if c = '"' then some ([], t)
    else if c.value < 0x20 then none
    else if c ≠ '\\' then (stringBody t).map fun (s, r) => (c :: s, r)
    else match t with
      | [] => none
      | e :: t =>
        if e ≠ 'u' then
          match plainEscape? e with
          | none => none
          | some x => (stringBody t).map fun (s, r) => (x :: s, r)
        else match t with
          | p :: q :: r :: s :: t =>
            match hexUnit? p q r s with
            | none => none
            | some n =>
              let x := CodePoint.ofNat n
              if x.isLeadSurrogate then
                match trailEscape? t, t with
                | some y, _ :: _ :: _ :: _ :: _ :: _ :: t =>
                  (stringBody t).map fun (s, r) => (CodePoint.ofSurrogates x y :: s, r)
                | _, t => (stringBody t).map fun (s, r) => (x :: s, r)
              else (stringBody t).map fun (s, r) => (x :: s, r)
          | _ => none

/-- The longest beginning of a text that is made of digits, and the rest. -/
def digits (t : Text) : Text × Text :=
  (t.takeWhile CodePoint.isDigit, t.dropWhile CodePoint.isDigit)

/-- The digits of a fraction, if one begins here. -/
def fraction? (t : Text) : Option (Text × Text) :=
  match t with
  | c :: t =>
    if c = '.' then
      match digits t with
      | ([], _) => none
      | (ds, rest) => some (ds, rest)
    else none
  | [] => none

/-- The value of an exponent, if one begins here. -/
def exponent? (t : Text) : Option (Int × Text) :=
  match t with
  | c :: t =>
    if c = 'e' ∨ c = 'E' then
      let (negative, t) := match t with
        | s :: u => if s = '-' then (true, u) else if s = '+' then (false, u) else (false, t)
        | [] => (false, t)
      match digits t with
      | ([], _) => none
      | (ds, rest) =>
        let n : Int := Text.digitsValue ds
        some (if negative then -n else n, rest)
    else none
  | [] => none

/-- The digits before the point: a zero on its own, or digits that begin with another. -/
def wholePart? (t : Text) : Option (Text × Text) :=
  match digits t with
  | ([], _) => none
  | (d :: ds, rest) => if d = '0' then some ([d], ds ++ rest) else some (d :: ds, rest)

/-- Reads a numeral without its sign. -/
def magnitude? (negative : Bool) (t : Text) : Option (Json × Text) :=
  match wholePart? t with
  | none => none
  | some (whole, rest) =>
    let (frac, rest) := (fraction? rest).elim (none, rest) fun (ds, r) => (some ds, r)
    let (exp, rest) := (exponent? rest).elim (none, rest) fun (e, r) => (some e, r)
    match frac, exp with
    | none, none =>
      let n : Int := Text.digitsValue whole
      some (.int (if negative then -n else n), rest)
    | _, _ =>
      let ds := frac.getD []
      some (.float (Binary64.ofDecimal negative (Text.digitsValue (whole ++ ds))
        (exp.getD 0 - ds.length)), rest)

/-- What is left of a text after a word it begins with. -/
def afterWord? (word t : Text) : Option Text :=
  if t.startsWith word then some (t.drop word.length) else none

/-- The values that are written as a word. -/
def wordValues : List (Text × Json) :=
  [("null", .null), ("true", .bool true), ("false", .bool false), ("NaN", .float .nan),
    ("Infinity", .float (.infinity false)), ("-Infinity", .float (.infinity true))]

/-- Reads a word or a numeral. -/
def scalar? (t : Text) : Option (Json × Text) :=
  match wordValues.findSome? fun (w, v) => (afterWord? w t).map (v, ·) with
  | some r => some r
  | none =>
    match t with
    | c :: u => if c = '-' then magnitude? true u else magnitude? false t
    | [] => none

mutual

/-- Reads a value that begins here. -/
def value? : Nat → Text → Option (Json × Text)
  | 0, _ => none
  | _ + 1, [] => none
  | fuel + 1, c :: t =>
    if c = '"' then (stringBody t).map fun (s, r) => (.str s, r)
    else if c = '[' then
      match skipSpace t with
      | [] => none
      | d :: r => if d = ']' then some (.arr [], r)
        else (items? fuel (d :: r)).map fun (vs, r) => (.arr vs, r)
    else if c = '{' then
      match skipSpace t with
      | [] => none
      | d :: r => if d = '}' then some (.obj [], r)
        else (members? fuel [] (d :: r)).map fun (ms, r) => (.obj ms, r)
    else scalar? (c :: t)

/-- Reads the items of a list up to its end. -/
def items? : Nat → Text → Option (List Json × Text)
  | 0, _ => none
  | fuel + 1, t =>
    match value? fuel t with
    | none => none
    | some (v, r) =>
      match skipSpace r with
      | [] => none
      | c :: r =>
        if c = ']' then some ([v], r)
        else if c = ',' then
          (items? fuel (skipSpace r)).map fun (vs, r) => (v :: vs, r)
        else none

/-- Reads the members of an object up to its end, into those read before. -/
def members? : Nat → List (Text × Json) → Text → Option (List (Text × Json) × Text)
  | 0, _, _ => none
  | fuel + 1, done, t =>
    match t with
    | [] => none
    | q :: t =>
      if q ≠ '"' then none
      else match stringBody t with
        | none => none
        | some (key, r) =>
          match skipSpace r with
          | [] => none
          | colon :: r =>
            if colon ≠ ':' then none
            else match value? fuel (skipSpace r) with
              | none => none
              | some (v, r) =>
                match skipSpace r with
                | [] => none
                | c :: r =>
                  if c = '}' then some (Entries.set key v done, r)
                  else if c = ',' then members? fuel (Entries.set key v done) (skipSpace r)
                  else none

end

/-- The value of a whole document. -/
def read? (t : Text) : Option Json :=
  match value? (t.length + 1) (skipSpace t) with
  | some (v, rest) => if (skipSpace rest).isEmpty then some v else none
  | none => none

end Json

end Issuance
