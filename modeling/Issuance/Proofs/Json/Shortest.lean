import Issuance.Proofs.Json.Rounding
import Issuance.Proofs.Text.Decimal
import Mathlib.Algebra.Order.Field.Power
import Mathlib.Data.Rat.Cast.Order
import Mathlib.Tactic.FieldSimp
import Mathlib.Tactic.Linarith
import Mathlib.Tactic.Positivity
import Mathlib.Tactic.Ring

/-!
# Issuance.Proofs.Json.Shortest

**The shortest decimal reads back.** `Finite64.Reads` says which rational numbers lie so near to a
number that they are rounded to it, and `Finite64.shortest` gives a decimal that does
(`shortest_reads`). The search cannot fail: with seventeen digits the grid is finer than the
interval of such numbers is wide, so one of the two neighbours of the number is in it.

A decimal that reads back is far from the ends of the range, and so `Binary64.ofDecimal` makes the
number of it (`ofDecimal_of_reads`).
-/

namespace Issuance

/-- The value of digits at an exponent of ten. -/
def decimalValue (digits : Nat) (exponent : Int) : ℚ := digits * (10 : ℚ) ^ exponent

namespace Finite64

/-- How many quarters of the smallest step there are to one. -/
def quartersOfOne : Nat := 4 * Binary64.denominator

theorem quartersOfOne_eq : Nat.pow 2 1076 = quartersOfOne := by decide +kernel

theorem quartersOfOne_pos : 0 < quartersOfOne := by decide +kernel

/-- A rational number is rounded to the magnitude of `x`: it is nearer than half a step, or just
half a step away where the mantissa is even. -/
def Reads (x : Finite64) (q : ℚ) : Prop :=
  if x.mantissa % 2 = 0 then
    (x.quarters : ℚ) - x.slackBelow ≤ q * quartersOfOne ∧
      q * quartersOfOne ≤ x.quarters + x.slackAbove
  else
    (x.quarters : ℚ) - x.slackBelow < q * quartersOfOne ∧
      q * quartersOfOne < x.quarters + x.slackAbove

theorem slackAbove_pos (x : Finite64) : 0 < x.slackAbove :=
  Nat.mul_pos (by decide) (Nat.pow_pos (by decide))

theorem slackBelow_pos (x : Finite64) : 0 < x.slackBelow := by
  unfold slackBelow
  split
  · exact Nat.pow_pos (by decide)
  · exact Nat.mul_pos (by decide) (Nat.pow_pos (by decide))

/-- A step is a quarter of the number at most. -/
theorem four_pow_le_quarters {x : Finite64} (h : x.mantissa ≠ 0) :
    4 * Nat.pow 2 x.exponent ≤ x.quarters := by
  unfold quarters
  rw [Nat.mul_comm]
  exact Nat.mul_le_mul_right 4 (Nat.le_mul_of_pos_left _ (Nat.pos_of_ne_zero h))

theorem readsBack_iff {x : Finite64} (hx : x.mantissa ≠ 0) {num den : Nat} (hden : 0 < den) :
    x.readsBack num den = true ↔ x.Reads (num / den) := by
  have hslack : x.slackBelow ≤ x.quarters := by
    have h₁ := x.slackBelow_le
    have h₂ := four_pow_le_quarters hx
    omega
  have hden' : (0 : ℚ) < den := Nat.cast_pos.2 hden
  have hvalue : (num / den : ℚ) * quartersOfOne = (num * quartersOfOne : ℕ) / (den : ℚ) := by
    push_cast
    ring
  have hlow : (x.quarters : ℚ) - x.slackBelow = ((x.quarters - x.slackBelow : ℕ) : ℚ) :=
    (Nat.cast_sub hslack).symm
  have hhigh : (x.quarters : ℚ) + x.slackAbove = ((x.quarters + x.slackAbove : ℕ) : ℚ) :=
    (Nat.cast_add _ _).symm
  unfold readsBack Reads
  dsimp only
  rw [hvalue, hlow, hhigh, quartersOfOne_eq]
  split
  · rw [le_div_iff₀ hden', div_le_iff₀ hden', Bool.and_eq_true, decide_eq_true_eq,
      decide_eq_true_eq]
    norm_cast
  · rw [lt_div_iff₀ hden', div_lt_iff₀ hden', Bool.and_eq_true, decide_eq_true_eq,
      decide_eq_true_eq]
    norm_cast

/-! ### One grid -/

/-- The nearest multiple of `up / down` that reads back. -/
def nearestOn (x : Finite64) (up down : Nat) : Option Nat :=
  let num := x.quarters * down
  let den := Nat.pow 2 1076 * up
  let c := num / den
  let r := num % den
  let lower := readsBack x (c * up) down && 0 < c
  let upper := readsBack x ((c + 1) * up) down
  if lower && upper then
    if 2 * r < den then some c
    else if den < 2 * r then some (c + 1)
    else some (c + c % 2)
  else if lower then some c
  else if upper then some (c + 1)
  else none

/-- A grid's unit is a quotient of natural numbers. -/
theorem onGrid?_eq (x : Finite64) (grid : Int) :
    ∃ up down : Nat, 0 < up ∧ 0 < down ∧ (up / down : ℚ) = (10 : ℚ) ^ grid ∧
      x.onGrid? grid = x.nearestOn up down := by
  by_cases h : 0 ≤ grid
  · refine ⟨Nat.pow 10 grid.toNat, 1, Nat.pow_pos (by decide), Nat.one_pos, ?_, ?_⟩
    · obtain ⟨n, rfl⟩ := Int.eq_ofNat_of_zero_le h
      simp
    · unfold onGrid?
      rw [if_pos h]
      rfl
  · refine ⟨1, Nat.pow 10 (-grid).toNat, Nat.one_pos, Nat.pow_pos (by decide), ?_, ?_⟩
    · obtain ⟨n, hn⟩ := Int.eq_ofNat_of_zero_le (a := -grid) (by omega)
      obtain rfl : grid = -(n : Int) := by omega
      simp
    · unfold onGrid?
      rw [if_neg h]
      rfl

theorem nearestOn_eq_some {x : Finite64} {up down c : Nat} (h : x.nearestOn up down = some c) :
    0 < c ∧ x.readsBack (c * up) down = true := by
  unfold nearestOn at h
  dsimp only at h
  generalize x.quarters * down / (Nat.pow 2 1076 * up) = d at h
  split at h
  · rename_i hboth
    simp only [Bool.and_eq_true, decide_eq_true_eq] at hboth
    obtain ⟨⟨hlower, hpos⟩, hupper⟩ := hboth
    split at h
    · cases h
      exact ⟨hpos, hlower⟩
    · split at h
      · cases h
        exact ⟨Nat.succ_pos d, hupper⟩
      · cases h
        -- of two that are equally near it is the even one
        rcases Nat.mod_two_eq_zero_or_one d with heven | hodd
        · rw [heven]
          exact ⟨hpos, hlower⟩
        · rw [hodd]
          exact ⟨Nat.succ_pos d, hupper⟩
  · split at h
    · rename_i hlower
      simp only [Bool.and_eq_true, decide_eq_true_eq] at hlower
      cases h
      exact ⟨hlower.2, hlower.1⟩
    · split at h
      · rename_i hupper
        cases h
        exact ⟨Nat.succ_pos d, hupper⟩
      · cases h

theorem nearestOn_eq_none {x : Finite64} {up down : Nat} (h : x.nearestOn up down = none)
    (hpos : 0 < x.quarters * down / (quartersOfOne * up)) :
    x.readsBack (x.quarters * down / (quartersOfOne * up) * up) down ≠ true ∧
      x.readsBack ((x.quarters * down / (quartersOfOne * up) + 1) * up) down ≠ true := by
  unfold nearestOn at h
  dsimp only at h
  rw [quartersOfOne_eq] at h
  generalize x.quarters * down / (quartersOfOne * up) = d at *
  split at h
  · split at h
    · cases h
    · split at h <;> cases h
  · split at h
    · cases h
    · split at h
      · cases h
      · rename_i hlower hupper
        refine ⟨fun hread => hlower ?_, hupper⟩
        rw [hread, Bool.true_and, decide_eq_true_eq]
        exact hpos

/-- What is found on a grid reads back. -/
theorem onGrid?_eq_some {x : Finite64} (hx : x.mantissa ≠ 0) {grid : Int} {c : Nat}
    (h : x.onGrid? grid = some c) : 0 < c ∧ x.Reads (decimalValue c grid) := by
  obtain ⟨up, down, hup, hdown, hgrid, heq⟩ := x.onGrid?_eq grid
  rw [heq] at h
  obtain ⟨hpos, hread⟩ := nearestOn_eq_some h
  have hreads := (readsBack_iff hx hdown).1 hread
  refine ⟨hpos, ?_⟩
  unfold decimalValue
  rw [← hgrid, ← mul_div_assoc]
  exact_mod_cast hreads

/-- A grid whose unit is less than the interval is wide has a decimal in it, if it is not too coarse
for the number. -/
theorem onGrid?_isSome {x : Finite64} (hx : x.mantissa ≠ 0) {grid : Int}
    (hcoarse : (10 : ℚ) ^ grid * quartersOfOne ≤ x.quarters)
    (hfine : (10 : ℚ) ^ grid * quartersOfOne < x.slackBelow + x.slackAbove) :
    (x.onGrid? grid).isSome := by
  obtain ⟨up, down, hup, hdown, hgrid, heq⟩ := x.onGrid?_eq grid
  rw [heq]
  cases hnone : x.nearestOn up down with
  | some c => rfl
  | none =>
    exfalso
    rw [← hgrid] at hcoarse hfine
    have hdown' : (0 : ℚ) < down := Nat.cast_pos.2 hdown
    have hden : 0 < quartersOfOne * up := Nat.mul_pos quartersOfOne_pos hup
    have hpos : 0 < x.quarters * down / (quartersOfOne * up) := by
      refine Nat.div_pos ?_ hden
      rw [div_mul_eq_mul_div, div_le_iff₀ hdown', mul_comm (up : ℚ)] at hcoarse
      exact_mod_cast hcoarse
    obtain ⟨hlower, hupper⟩ := nearestOn_eq_none hnone hpos
    -- the number lies between the two neighbours on the grid
    have hle := Nat.div_mul_le_self (x.quarters * down) (quartersOfOne * up)
    have hlt := Nat.lt_div_mul_add hden (a := x.quarters * down)
    generalize x.quarters * down / (quartersOfOne * up) = c at *
    rw [Ne, readsBack_iff hx hdown] at hlower hupper
    have hunit : ∀ k : Nat, ((k * up : ℕ) / down : ℚ) * quartersOfOne =
        k * (up / down * quartersOfOne) := by
      intro k
      push_cast
      ring
    have hle' : (c : ℚ) * (up / down * quartersOfOne) ≤ x.quarters := by
      rw [← hunit, div_mul_eq_mul_div, div_le_iff₀ hdown']
      rw [← Nat.mul_assoc, Nat.mul_right_comm] at hle
      exact_mod_cast hle
    have hlt' : (x.quarters : ℚ) < ((c + 1 : ℕ) : ℚ) * (up / down * quartersOfOne) := by
      rw [← hunit, div_mul_eq_mul_div, lt_div_iff₀ hdown']
      rw [← Nat.succ_mul, ← Nat.mul_assoc, Nat.mul_right_comm] at hlt
      exact_mod_cast hlt
    have hbelow : (0 : ℚ) < x.slackBelow := Nat.cast_pos.2 x.slackBelow_pos
    have habove : (0 : ℚ) < x.slackAbove := Nat.cast_pos.2 x.slackAbove_pos
    unfold Reads at hlower hupper
    rw [hunit] at hlower hupper
    generalize (up / down * quartersOfOne : ℚ) = unit at *
    push_cast at hlt' hupper
    -- neither neighbour is in the interval, which is then no wider than the grid
    by_cases heven : x.mantissa % 2 = 0
    · simp only [if_pos heven, not_and_or, not_le] at hlower hupper
      rcases hlower with hlower | hlower <;> rcases hupper with hupper | hupper <;> linarith
    · simp only [if_neg heven, not_and_or, not_lt] at hlower hupper
      rcases hlower with hlower | hlower <;> rcases hupper with hupper | hupper <;> linarith

/-! ### The search -/

/-- The search stops at the first grid with a decimal. -/
theorem firstGrid_eq {x : Finite64} {fuel k : Nat} {grid : Int} (hk : k < fuel)
    (h : (x.onGrid? (grid - k)).isSome) :
    ∃ c found, x.firstGrid fuel grid = (c, found) ∧ x.onGrid? found = some c := by
  induction fuel generalizing grid k with
  | zero => exact absurd hk (Nat.not_lt_zero k)
  | succ fuel ih =>
    rw [firstGrid]
    cases hgrid : x.onGrid? grid with
    | some c => exact ⟨c, grid, rfl, hgrid⟩
    | none =>
      cases k with
      | zero =>
        rw [Nat.cast_zero, Int.sub_zero, hgrid] at h
        cases h
      | succ k =>
        refine ih (k := k) (by omega) ?_
        have hnext : grid - 1 - (k : Int) = grid - ((k + 1 : ℕ) : Int) := by
          push_cast
          ring
        rw [hnext]
        exact h

/-- Where the number of tries suffices, the exponent is found at which the number is one at
least. -/
theorem le_mul_pow_smallMagnitude {num den fuel j : Nat}
    (h : den ≤ num * Nat.pow 10 (j + fuel)) :
    den ≤ num * Nat.pow 10 (smallMagnitude num den fuel j) := by
  induction fuel generalizing j with
  | zero => exact h
  | succ fuel ih =>
    rw [smallMagnitude]
    split
    · rename_i hle
      exact hle
    · refine ih ?_
      rw [Nat.add_right_comm]
      exact h

/-- The number is found to be one at least, given as many tries as the smallest number takes. -/
theorem quartersOfOne_le_mul_pow {x : Finite64} (hx : x.mantissa ≠ 0) {fuel : Nat}
    (hfuel : quartersOfOne ≤ 4 * Nat.pow 10 (1 + fuel)) :
    quartersOfOne ≤ x.quarters * Nat.pow 10 (smallMagnitude x.quarters quartersOfOne fuel 1) := by
  have hquarters : 4 ≤ x.quarters := by
    refine le_trans ?_ (four_pow_le_quarters hx)
    exact Nat.le_mul_of_pos_right 4 (Nat.pow_pos (by decide))
  exact le_mul_pow_smallMagnitude (hfuel.trans (Nat.mul_le_mul_right _ hquarters))

/-- The leading digit of a number is not before it. -/
theorem pow_magnitude_le {x : Finite64} (hx : x.mantissa ≠ 0) :
    (10 : ℚ) ^ x.magnitude * quartersOfOne ≤ x.quarters := by
  unfold magnitude
  dsimp only
  rw [quartersOfOne_eq]
  split
  · have hfound := quartersOfOne_le_mul_pow hx (show _ ≤ 4 * Nat.pow 10 (1 + 330) by decide +kernel)
    generalize smallMagnitude x.quarters quartersOfOne 330 1 = j at *
    have hpow : (0 : ℚ) < 10 ^ j := by positivity
    rw [zpow_neg, zpow_natCast, inv_mul_le_iff₀ hpow, mul_comm]
    exact_mod_cast hfound
  · rename_i hwhole
    have hpos := Nat.pos_of_ne_zero hwhole
    have hle := Nat.div_mul_le_self x.quarters quartersOfOne
    generalize x.quarters / quartersOfOne = whole at *
    have hpow := Text.pow_length_ofNat_le hpos
    have hlength : 0 < (Text.ofNat whole).length := List.length_pos_iff.2 (Text.ofNat_ne_nil _)
    have hcast : ((Text.ofNat whole).length : Int) - 1 = ((Text.ofNat whole).length - 1 : ℕ) := by
      omega
    rw [hcast, zpow_natCast]
    have hmul := (Nat.mul_le_mul_right quartersOfOne hpow).trans hle
    exact_mod_cast hmul

/-- Seventeen digits are enough. -/
theorem pow_fine_lt {x : Finite64} (hx : x.mantissa ≠ 0) :
    (10 : ℚ) ^ (x.magnitude - 16) * quartersOfOne < x.slackBelow + x.slackAbove := by
  have hmagnitude := pow_magnitude_le hx
  have hsplit : (10 : ℚ) ^ x.magnitude = 10 ^ (x.magnitude - 16) * 10 ^ 16 := by
    rw [← zpow_natCast, ← zpow_add₀ (by norm_num)]
    norm_num
  rw [hsplit] at hmagnitude
  have hpow : (0 : ℚ) < (Nat.pow 2 x.exponent : ℕ) := Nat.cast_pos.2 (Nat.pow_pos (by decide))
  have hquarters : (x.quarters : ℚ) = x.mantissa * (Nat.pow 2 x.exponent : ℕ) * 4 := by
    unfold quarters
    push_cast
    ring
  have habove : (x.slackAbove : ℚ) = 2 * (Nat.pow 2 x.exponent : ℕ) := by
    unfold slackAbove
    push_cast
    ring
  rw [hquarters] at hmagnitude
  rw [habove]
  have hlt : (x.mantissa : ℚ) < 9007199254740992 := by exact_mod_cast x.mantissa_lt
  unfold slackBelow
  split
  · -- the steps below the number are half as wide, but so is the number next to the steps above
    rename_i hboundary
    have hmantissa : (x.mantissa : ℚ) = 4503599627370496 := by exact_mod_cast hboundary.1
    rw [hmantissa] at hmagnitude
    linarith
  · have hle := mul_le_mul_of_nonneg_right hlt.le hpow.le
    push_cast at hle hmagnitude hpow ⊢
    linarith

/-- **The shortest decimal reads back.** -/
theorem shortest_reads {x : Finite64} (hx : x.mantissa ≠ 0) :
    0 < x.shortest.1 ∧ x.Reads (decimalValue x.shortest.1 x.shortest.2) := by
  have hfine := pow_fine_lt hx
  have hcoarse : (10 : ℚ) ^ (x.magnitude - 16) * quartersOfOne ≤ x.quarters := by
    have hunit : (0 : ℚ) ≤ quartersOfOne := Nat.cast_nonneg _
    refine le_trans (mul_le_mul_of_nonneg_right ?_ hunit) (pow_magnitude_le hx)
    exact zpow_le_zpow_right₀ (by norm_num) (by omega)
  obtain ⟨c, found, hsearch, hgrid⟩ := firstGrid_eq (show 16 < 18 by decide)
    (onGrid?_isSome hx hcoarse hfine)
  unfold shortest
  rw [hsearch]
  exact onGrid?_eq_some hx hgrid

/-! ### Reading a decimal -/

/-- The interval of a number ends before the power of two after the greatest number. -/
theorem quarters_add_slackAbove_le (x : Finite64) {e : Nat} (he : x.exponent ≤ e) :
    x.quarters + x.slackAbove ≤ Nat.pow 2 55 * Nat.pow 2 e := by
  have hstep : Nat.pow 2 x.exponent ≤ Nat.pow 2 e := Nat.pow_le_pow_right (by decide) he
  have hmantissa : x.mantissa * 4 + 2 ≤ Nat.pow 2 55 := by
    have hlt := x.mantissa_lt
    have hpow : Nat.pow 2 55 = Nat.pow 2 53 * 4 := rfl
    omega
  calc x.quarters + x.slackAbove = (x.mantissa * 4 + 2) * Nat.pow 2 x.exponent := by
        unfold quarters slackAbove
        rw [Nat.add_mul, Nat.mul_right_comm]
    _ ≤ Nat.pow 2 55 * Nat.pow 2 e := Nat.mul_le_mul hmantissa hstep

/-- What reads back is not past a power of ten that is past the greatest number. -/
theorem Reads.le {x : Finite64} {q : ℚ} (h : x.Reads q) {e k : Nat} (he : x.exponent ≤ e)
    (hk : Nat.pow 2 55 * Nat.pow 2 e ≤ Nat.pow 10 k * quartersOfOne) : q ≤ (10 : ℚ) ^ k := by
  have hunit : (0 : ℚ) < quartersOfOne := Nat.cast_pos.2 quartersOfOne_pos
  have hbound : (x.quarters + x.slackAbove : ℚ) ≤ 10 ^ k * quartersOfOne := by
    exact_mod_cast (x.quarters_add_slackAbove_le he).trans hk
  refine le_of_mul_le_mul_right (le_trans ?_ hbound) hunit
  unfold Reads at h
  split at h
  · exact h.2
  · exact h.2.le

/-- What reads back is not below half of the smallest number. -/
theorem Reads.lt_mul {x : Finite64} (hx : x.mantissa ≠ 0) {q : ℚ} (h : x.Reads q) {k : Nat}
    (hk : quartersOfOne < 2 * Nat.pow 10 k) : 1 < q * (10 : ℚ) ^ k := by
  have hunit : (0 : ℚ) < quartersOfOne := Nat.cast_pos.2 quartersOfOne_pos
  have hslack : x.slackBelow + 2 ≤ x.quarters := by
    have hstep : 1 ≤ Nat.pow 2 x.exponent := Nat.pow_pos (by decide)
    have hbelow := x.slackBelow_le
    have hquarters := four_pow_le_quarters hx
    omega
  have hslack' : (x.slackBelow : ℚ) + 2 ≤ x.quarters := by exact_mod_cast hslack
  have hq : 2 ≤ q * quartersOfOne := by
    unfold Reads at h
    split at h
    · linarith [h.1]
    · linarith [h.1]
  have hsmall : (quartersOfOne : ℚ) < 2 * 10 ^ k := by exact_mod_cast hk
  have hpos : 0 < q := pos_of_mul_pos_left (by linarith) hunit.le
  have hmul := mul_lt_mul_of_pos_left hsmall hpos
  linarith

/-- The count of digits says how great a decimal is. -/
theorem decimalValue_lt (digits : Nat) (exponent : Int) :
    decimalValue digits exponent < (10 : ℚ) ^ ((Text.ofNat digits).length + exponent) := by
  have hpow : (0 : ℚ) < 10 ^ exponent := by positivity
  have hlt : (digits : ℚ) < 10 ^ (Text.ofNat digits).length := by
    exact_mod_cast Text.lt_pow_length_ofNat digits
  rw [zpow_add₀ (by norm_num), zpow_natCast]
  exact mul_lt_mul_of_pos_right hlt hpow

theorem le_decimalValue {digits : Nat} (h : digits ≠ 0) (exponent : Int) :
    (10 : ℚ) ^ ((Text.ofNat digits).length + exponent - 1) ≤ decimalValue digits exponent := by
  have hpow : (0 : ℚ) < 10 ^ exponent := by positivity
  have hlength : 0 < (Text.ofNat digits).length := List.length_pos_iff.2 (Text.ofNat_ne_nil _)
  have hle : (10 : ℚ) ^ ((Text.ofNat digits).length - 1) ≤ digits := by
    exact_mod_cast Text.pow_length_ofNat_le (Nat.pos_of_ne_zero h)
  have hsplit : ((Text.ofNat digits).length + exponent - 1 : Int) =
      ((Text.ofNat digits).length - 1 : ℕ) + exponent := by omega
  rw [hsplit, zpow_add₀ (by norm_num), zpow_natCast]
  exact mul_le_mul_of_nonneg_right hle hpow.le

/-- **A decimal that reads back is read as the number.** -/
theorem ofDecimal_of_reads {x : Finite64} (hx : x.mantissa ≠ 0) {digits : Nat} {exponent : Int}
    (h : x.Reads (decimalValue digits exponent)) :
    Binary64.ofDecimal x.negative digits exponent = .finite x := by
  have hle := h.le (k := 309) x.exponent_le (by decide +kernel)
  have hlt := h.lt_mul (k := 331) hx (by decide +kernel)
  have hdigits : digits ≠ 0 := by
    rintro rfl
    rw [decimalValue, Nat.cast_zero, zero_mul, zero_mul] at hlt
    linarith
  have hgreat : ¬ 310 < ((Text.ofNat digits).length : Int) + exponent := by
    intro hmagnitude
    have hpow := (le_decimalValue hdigits exponent).trans hle
    rw [← zpow_natCast, zpow_le_zpow_iff_right₀ (by norm_num)] at hpow
    omega
  have hsmall : ¬ ((Text.ofNat digits).length : Int) + exponent < -330 := by
    intro hmagnitude
    have hpow := mul_lt_mul_of_pos_right (decimalValue_lt digits exponent)
      (show (0 : ℚ) < 10 ^ ((331 : ℕ) : Int) by positivity)
    rw [← zpow_natCast] at hlt
    rw [← zpow_add₀ (by norm_num)] at hpow
    have hone := (one_lt_zpow_iff_right₀ (show (1 : ℚ) < 10 by norm_num)).1 (hlt.trans hpow)
    omega
  unfold Binary64.ofDecimal
  dsimp only
  rw [if_neg hdigits, if_neg hgreat, if_neg hsmall]
  split
  · rename_i hexponent
    refine ofRatio_of_readsBack Nat.one_pos ((readsBack_iff hx Nat.one_pos).2 ?_)
    obtain ⟨n, rfl⟩ := Int.eq_ofNat_of_zero_le hexponent
    unfold decimalValue at h
    simpa using h
  · rename_i hexponent
    have hpos : 0 < Nat.pow 10 (-exponent).toNat := Nat.pow_pos (by decide)
    refine ofRatio_of_readsBack hpos ((readsBack_iff hx hpos).2 ?_)
    obtain ⟨n, hn⟩ := Int.eq_ofNat_of_zero_le (a := -exponent) (by omega)
    obtain rfl : exponent = -(n : Int) := by omega
    unfold decimalValue at h
    simpa [div_eq_mul_inv] using h

end Finite64

end Issuance
