import Issuance.Claims.Numeral
import Issuance.Claims.Stamp
import Issuance.Json.Value
import Issuance.Text.Blank

/-!
# Issuance.Claims.Coercion

**Lenient readings** of a JSON value as an integer or a date. A numeral may come as text, a date
as the time stamp of its midnight. Text and lists are read as they are: nothing else becomes one.
-/

namespace Issuance

/-- Why a value cannot be read as the kind of thing that is asked for. -/
inductive TypeFault
  | notText
  | notList
  | notInteger
  | notNumeral
  | hasFraction
  | notFinite
  | tooLarge
  | notPath
  | notEncodable
  deriving DecidableEq

namespace TypeFault

/-- The label of a fault in a report. -/
def label : TypeFault → Text
  | notText => "string_type"
  | notList => "list_type"
  | notInteger => "int_type"
  | notNumeral => "int_parsing"
  | hasFraction => "int_from_float"
  | notFinite => "finite_number"
  | tooLarge => "int_parsing_size"
  | notPath => "path_type"
  | notEncodable => "string_unicode"

end TypeFault

namespace Coercion

/-- A text, which only a string is. -/
def text : Json → Except TypeFault Text
  | .str t => .ok t
  | _ => .error .notText

/-- An integer. A truth value is one or zero, and a floating-point number may stand for an
integer that a signed word of 64 bits holds. -/
def integer : Json → Except TypeFault Int
  | .int i => .ok i
  | .bool b => .ok (if b then 1 else 0)
  | .float x =>
    match x.floor? with
    | none => .error .notFinite
    | some _ =>
      match x.toInt? with
      | none => .error .hasFraction
      | some i => if i.natAbs < Nat.pow 2 63 then .ok i else .error .tooLarge
  | .str t =>
    if t.any CodePoint.isSurrogate then .error .notEncodable
    else match Numeral.value? t with
    | some i => .ok i
    | none => .error .notNumeral
  | _ => .error .notInteger

/-- A list, which only a list is. -/
def list : Json → Except TypeFault (List Json)
  | .arr items => .ok items
  | _ => .error .notList

/-! ### Dates -/

/-- Whether a text is an offset from universal time of less than a day, or none at all. -/
def isOffset : Text → Bool
  | [] => true
  | [z] => z = 'Z' || z = 'z'
  | [s, a, b, c, d] => clock s [a, b] [c, d]
  | [s, a, b, p, c, d] => p = ':' && clock s [a, b] [c, d]
  | _ => false
where
  /-- A sign, hours and minutes. -/
  clock (sign : CodePoint) (hours minutes : Text) : Bool :=
    (sign = '+' || sign = '-' || sign = '−') && (hours ++ minutes).all CodePoint.isDigit &&
    Text.digitsValue hours < 24 && Text.digitsValue minutes < 60

/-- What follows a fraction of a second of which six places are zero; a text that does not
begin with a fraction is given back. -/
def afterZeroFraction? (t : Text) : Option Text :=
  match t with
  | c :: u =>
    if c = '.' || c = ',' then
      let places := u.takeWhile CodePoint.isDigit
      if !places.isEmpty && (places.take 6).all (· = '0') then some (u.dropWhile CodePoint.isDigit)
      else none
    else some t
  | [] => some t

/-- Whether a text is the time of day `00:00`, with seconds, a fraction and an offset or
without. -/
def isMidnight (t : Text) : Bool :=
  match t with
  | a :: b :: p :: c :: d :: rest =>
    [a, b, c, d].all (· = '0') && p = ':' && (match rest with
      | q :: e :: f :: rest' =>
        if q = ':' then
          e = '0' && f = '0' && (match afterZeroFraction? rest' with
            | some offset => isOffset offset
            | none => false)
        else isOffset rest
      | _ => isOffset rest)
  | _ => false

/-- A date written as one, or as a moment at midnight. -/
def dateOfText? (t : Text) : Option Date :=
  match Date.readPrefix? t with
  | some (d, []) => some d
  | some (d, c :: rest) =>
    if (c = 'T' ∨ c = 't' ∨ c = '_' ∨ c = ' ') ∧ isMidnight rest then some d else none
  | none => none

/-- A date. -/
def date? : Json → Option Date
  | .int i => Stamp.dateOfInt? i
  | .float x => Stamp.dateOfNumber? x
  | .str t => match dateOfText? t with
    | some d => some d
    | none => Stamp.dateOfText? t
  | _ => none

end Coercion

end Issuance
