import Mathlib.Algebra.Order.Field.Rat
import Mathlib.Data.Rat.Cast.Order
import Mathlib.Order.WithBot
import Issuance.Signed.Verifier

/-!
# Issuance.Proofs.Json.Quantity

**The numbers that JSON values are.** An integer and a finite floating-point number are rational
numbers, an infinity lies at an end of them, and `NaN` is none. The comparisons of a value with an
integer are those of these numbers (`atMost_iff`, `exceeds_iff`): a quantity is at most an integer
or above it (`atMost_eq_false`, `exceeds_eq_false`), and `NaN` is neither.
-/

namespace Issuance

/-- The rational numbers with an infinity at either end. -/
abbrev Quantity := WithBot (WithTop ℚ)

namespace Quantity

/-- A rational number as a quantity. -/
def ofRat (q : ℚ) : Quantity := ((q : WithTop ℚ) : WithBot (WithTop ℚ))

@[simp] theorem ofRat_le {a b : ℚ} : ofRat a ≤ ofRat b ↔ a ≤ b := by
  unfold ofRat
  rw [WithBot.coe_le_coe, WithTop.coe_le_coe]

@[simp] theorem ofRat_lt {a b : ℚ} : ofRat a < ofRat b ↔ a < b := by
  unfold ofRat
  rw [WithBot.coe_lt_coe, WithTop.coe_lt_coe]

@[simp] theorem ofRat_inj {a b : ℚ} : ofRat a = ofRat b ↔ a = b := by
  unfold ofRat
  rw [WithBot.coe_inj, WithTop.coe_inj]

@[simp] theorem bot_lt_ofRat (a : ℚ) : ⊥ < ofRat a := WithBot.bot_lt_coe _

@[simp] theorem ofRat_lt_top (a : ℚ) : ofRat a < ⊤ :=
  WithBot.coe_lt_coe.2 (WithTop.coe_lt_top a)

end Quantity

/-- The rational number that a finite number is. -/
def Finite64.value (x : Finite64) : ℚ := x.numerator / Binary64.denominator

namespace Binary64

/-- The quantity that a floating-point number is. -/
def quantity? : Binary64 → Option Quantity
  | nan => none
  | infinity true => some ⊥
  | infinity false => some ⊤
  | finite x => some (.ofRat x.value)

theorem denominator_pos : (0 : ℚ) < denominator := by
  have h : 0 < denominator := Nat.pos_of_ne_zero (by decide +kernel)
  exact_mod_cast h

theorem value_le_iff {x : Finite64} {n : Int} :
    x.value ≤ n ↔ x.numerator ≤ n * denominator := by
  unfold Finite64.value
  rw [div_le_iff₀ denominator_pos]
  exact_mod_cast Iff.rfl

theorem lt_value_iff {x : Finite64} {n : Int} :
    (n : ℚ) < x.value ↔ n * denominator < x.numerator := by
  rw [← not_le, value_le_iff, not_le]

theorem value_eq_zero_iff {x : Finite64} : x.value = 0 ↔ x.mantissa = 0 := by
  unfold Finite64.value
  rw [div_eq_zero_iff, or_iff_left denominator_pos.ne', Int.cast_eq_zero]
  unfold Finite64.numerator
  split <;> simp

/-- What is said of some quantity of a finite number is said of its value. -/
theorem exists_quantity_finite {x : Finite64} {p : Quantity → Prop} :
    (∃ q, (finite x).quantity? = some q ∧ p q) ↔ p (.ofRat x.value) :=
  ⟨fun ⟨_, hq, h⟩ => Option.some.inj hq ▸ h, fun h => ⟨_, rfl, h⟩⟩

theorem atMost_iff {x : Binary64} {n : Int} :
    x.atMost n = true ↔ ∃ q, x.quantity? = some q ∧ q ≤ .ofRat n := by
  cases x with
  | nan => simp [atMost, quantity?]
  | infinity negative =>
    cases negative with
    | true => simp [atMost, quantity?]
    | false => simpa [atMost, quantity?] using (Quantity.ofRat_lt_top n).ne
  | finite x =>
    rw [exists_quantity_finite, Quantity.ofRat_le, value_le_iff]
    exact decide_eq_true_iff

theorem exceeds_iff {x : Binary64} {n : Int} :
    x.exceeds n = true ↔ ∃ q, x.quantity? = some q ∧ .ofRat n < q := by
  cases x with
  | nan => simp [exceeds, quantity?]
  | infinity negative => cases negative <;> simp [exceeds, quantity?]
  | finite x =>
    rw [exists_quantity_finite, Quantity.ofRat_lt, lt_value_iff]
    exact decide_eq_true_iff

theorem isZero_iff {x : Binary64} : x.isZero = true ↔ x.quantity? = some (.ofRat 0) := by
  cases x with
  | nan => simp [isZero, quantity?]
  | infinity negative =>
    cases negative with
    | true => simpa [isZero, quantity?] using (Quantity.bot_lt_ofRat 0).ne
    | false => simpa [isZero, quantity?] using (Quantity.ofRat_lt_top 0).ne'
  | finite x =>
    show (x.mantissa == 0) = true ↔ some (Quantity.ofRat x.value) = some (.ofRat 0)
    rw [beq_iff_eq, Option.some.injEq, Quantity.ofRat_inj, value_eq_zero_iff]

end Binary64

namespace Json

/-- The quantity that a value is, if it is one. -/
def quantity? : Json → Option Quantity
  | .int i => some (.ofRat i)
  | .float x => x.quantity?
  | _ => none

end Json

namespace SignedToken

theorem atMost_iff {v : Json} {n : Int} :
    atMost v n = true ↔ ∃ q, v.quantity? = some q ∧ q ≤ .ofRat n := by
  cases v with
  | int i => simp [atMost, Json.quantity?]
  | float x => exact Binary64.atMost_iff
  | _ => simp [atMost, Json.quantity?]

theorem exceeds_iff {v : Json} {n : Int} :
    exceeds v n = true ↔ ∃ q, v.quantity? = some q ∧ .ofRat n < q := by
  cases v with
  | int i => simp [exceeds, Json.quantity?]
  | float x => exact Binary64.exceeds_iff
  | _ => simp [exceeds, Json.quantity?]

/-- The only number that is no quantity is `NaN`. -/
theorem quantity?_eq_none {v : Json} (h : isNumber v = true) :
    v.quantity? = none ↔ v = .float .nan := by
  cases v with
  | int i => simp [Json.quantity?]
  | float x =>
    cases x with
    | nan => simp [Json.quantity?, Binary64.quantity?]
    | infinity negative => cases negative <;> simp [Json.quantity?, Binary64.quantity?]
    | finite x => simp [Json.quantity?, Binary64.quantity?]
  | _ => cases h

/-- A quantity that is not at most an integer is above it. -/
theorem atMost_eq_false {v : Json} {n : Int} {q : Quantity} (h : v.quantity? = some q) :
    atMost v n = false ↔ .ofRat n < q := by
  rw [← Bool.not_eq_true, atMost_iff, h]
  simp

theorem exceeds_eq_false {v : Json} {n : Int} {q : Quantity} (h : v.quantity? = some q) :
    exceeds v n = false ↔ q ≤ .ofRat n := by
  rw [← Bool.not_eq_true, exceeds_iff, h]
  simp

/-- A number passes for an empty value where it is zero. -/
theorem isVacant_iff {v : Json} (h : isNumber v = true) :
    v.isVacant = true ↔ v.quantity? = some (.ofRat 0) := by
  cases v with
  | int i => simp [Json.isVacant, Json.quantity?]
  | float x => exact Binary64.isZero_iff
  | _ => cases h

end SignedToken

end Issuance
