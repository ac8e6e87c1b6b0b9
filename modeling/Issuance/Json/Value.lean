import Issuance.Entries
import Issuance.Json.Binary64

/-!
# Issuance.Json.Value

**JSON values.** Integers are exact and kept apart from floating-point numbers, text may hold
lone surrogates, and an object keeps its members in the order in which they were first named.
-/

namespace Issuance

/-- A JSON value. -/
inductive Json
  | null
  | bool (b : Bool)
  | int (i : Int)
  | float (x : Binary64)
  | str (t : Text)
  | arr (items : List Json)
  | obj (members : List (Text × Json))

namespace Json

instance : Inhabited Json := ⟨.null⟩

mutual

/-- Equality of values, member order included. -/
def decEq : (a b : Json) → Decidable (a = b)
  | .null, .null => isTrue rfl
  | .bool a, .bool b => decidable_of_iff (a = b) (by simp)
  | .int a, .int b => decidable_of_iff (a = b) (by simp)
  | .float a, .float b => decidable_of_iff (a = b) (by simp)
  | .str a, .str b => decidable_of_iff (a = b) (by simp)
  | .arr a, .arr b => match decEqItems a b with
    | isTrue h => isTrue (by rw [h])
    | isFalse h => isFalse (by simpa using h)
  | .obj a, .obj b => match decEqMembers a b with
    | isTrue h => isTrue (by rw [h])
    | isFalse h => isFalse (by simpa using h)
  | .null, .bool _ | .null, .int _ | .null, .float _ | .null, .str _ | .null, .arr _
  | .null, .obj _ | .bool _, .null | .bool _, .int _ | .bool _, .float _ | .bool _, .str _
  | .bool _, .arr _ | .bool _, .obj _ | .int _, .null | .int _, .bool _ | .int _, .float _
  | .int _, .str _ | .int _, .arr _ | .int _, .obj _ | .float _, .null | .float _, .bool _
  | .float _, .int _ | .float _, .str _ | .float _, .arr _ | .float _, .obj _ | .str _, .null
  | .str _, .bool _ | .str _, .int _ | .str _, .float _ | .str _, .arr _ | .str _, .obj _
  | .arr _, .null | .arr _, .bool _ | .arr _, .int _ | .arr _, .float _ | .arr _, .str _
  | .arr _, .obj _ | .obj _, .null | .obj _, .bool _ | .obj _, .int _ | .obj _, .float _
  | .obj _, .str _ | .obj _, .arr _ => isFalse (by simp)

/-- Equality of lists of values. -/
def decEqItems : (a b : List Json) → Decidable (a = b)
  | [], [] => isTrue rfl
  | [], _ :: _ | _ :: _, [] => isFalse (by simp)
  | x :: xs, y :: ys => match decEq x y, decEqItems xs ys with
    | isTrue h, isTrue k => isTrue (by rw [h, k])
    | isFalse h, _ => isFalse (by simp [h])
    | _, isFalse k => isFalse (by simp [k])

/-- Equality of lists of members. -/
def decEqMembers : (a b : List (Text × Json)) → Decidable (a = b)
  | [], [] => isTrue rfl
  | [], _ :: _ | _ :: _, [] => isFalse (by simp)
  | (k, x) :: xs, (l, y) :: ys =>
    if hk : k = l then match decEq x y, decEqMembers xs ys with
      | isTrue h, isTrue t => isTrue (by rw [hk, h, t])
      | isFalse h, _ => isFalse (by simp [h])
      | _, isFalse t => isFalse (by simp [t])
    else isFalse (by simp [hk])

end

instance : DecidableEq Json := decEq

instance : Coe Text Json := ⟨.str⟩
instance : Coe Int Json := ⟨.int⟩
instance : Coe Bool Json := ⟨.bool⟩

/-- The value of a member of an object, by its name. -/
def field? (members : List (Text × Json)) (name : Text) : Option Json := Entries.get? name members

/-- The member of an object at a key, if there is one. -/
def member? (v : Json) (key : Text) : Option Json :=
  match v with
  | .obj members => field? members key
  | _ => none

/-- The member of an object at a key; `null` where there is none. -/
def member (v : Json) (key : Text) : Json := (v.member? key).getD .null

/-- `null`, `false`, zero, and empty text, list or object: a value that says nothing. -/
def isVacant : Json → Bool
  | .null => true
  | .bool b => !b
  | .int i => i == 0
  | .float x => x.isZero
  | .str t => t.isEmpty
  | .arr items => items.isEmpty
  | .obj members => members.isEmpty

/-- The text of a string value. -/
def text? : Json → Option Text
  | .str t => some t
  | _ => none

/-- A text that may be absent, with `null` for none. -/
def ofText? : Option Text → Json
  | none => .null
  | some t => .str t

/-- An integer that may be absent, with `null` for none. -/
def ofInt? : Option Int → Json
  | none => .null
  | some i => .int i

end Json

end Issuance
