import Issuance.Json.Shortest

/-!
# Issuance.Proofs.Json.Rounding

**What reads back is rounded to the number.** `Finite64.readsBack` says which quotients lie nearer
to a number than to its neighbours, or half-way where the number's mantissa is even. Rounding takes
each of them to the number (`ofRatio_of_readsBack`). Most are rounded at the number's own exponent.
The exception is below a power of two, where the numbers lie closer: a quotient there is rounded
one exponent lower, and its mantissa comes out one too great.
-/

namespace Issuance

namespace Binary64

/-- What is at most half a unit from a number is rounded to it, if the number is even or the
distance smaller than that. -/
theorem roundQuotient_eq {num den m : Nat} (hden : 0 < den)
    (hlow : 2 * (m * den) ≤ 2 * num + den) (hhigh : 2 * num ≤ 2 * (m * den) + den)
    (hodd : m % 2 = 1 → 2 * (m * den) < 2 * num + den ∧ 2 * num < 2 * (m * den) + den) :
    roundQuotient num den = m := by
  have hsplit : num / den * den + num % den = num := by
    rw [Nat.mul_comm]
    exact Nat.div_add_mod num den
  have hrest : num % den < den := Nat.mod_lt num hden
  -- the whole part is the number itself, or the one before it
  have hle : num / den ≤ m := by
    refine Nat.lt_succ_iff.1 (Nat.lt_of_mul_lt_mul_right (a := den) ?_)
    rw [Nat.succ_mul]
    omega
  have hge : m ≤ num / den + 1 := by
    refine Nat.lt_succ_iff.1 (Nat.lt_of_mul_lt_mul_right (a := den) ?_)
    rw [Nat.succ_mul, Nat.succ_mul]
    omega
  unfold roundQuotient
  dsimp only
  generalize num / den = q at *
  generalize num % den = r at *
  rcases Nat.lt_or_eq_of_le hle with hlt | rfl
  · obtain rfl : m = q + 1 := by omega
    rw [Nat.succ_mul q den] at hlow hhigh hodd
    rw [if_neg (by omega)]
    split
    · rfl
    · by_cases hparity : (q + 1) % 2 = 1
      · have := hodd hparity
        omega
      · omega
  · by_cases hparity : q % 2 = 1
    · have := hodd hparity
      rw [if_pos (by omega)]
    · split
      · rfl
      · rw [if_neg (by omega)]
        omega

/-- The exponent at which a quotient with the given whole part is rounded. -/
def roundingExponent (whole : Nat) : Nat := if whole = 0 then 0 else whole.log2 + 1 - 53

theorem roundingExponent_of_lt {whole : Nat} (h : whole < Nat.pow 2 53) :
    roundingExponent whole = 0 := by
  unfold roundingExponent
  split
  · rfl
  · rename_i hne
    have := (Nat.log2_lt hne).2 h
    omega

theorem roundingExponent_eq {whole e : Nat} (hlow : Nat.pow 2 (52 + e) ≤ whole)
    (hhigh : whole < Nat.pow 2 (53 + e)) : roundingExponent whole = e := by
  have hpos : 0 < Nat.pow 2 (52 + e) := Nat.pow_pos (by decide)
  have hne : whole ≠ 0 := by omega
  unfold roundingExponent
  rw [if_neg hne]
  have hle := (Nat.le_log2 hne).2 hlow
  have hlt := (Nat.log2_lt hne).2 hhigh
  omega

theorem ofRatio_eq (negative : Bool) (num den : Nat) :
    ofRatio negative num den =
      let exponent := roundingExponent (num * denominator / den)
      let mantissa := roundQuotient (num * denominator) (den * Nat.pow 2 exponent)
      if mantissa = Nat.pow 2 53 then ofParts negative (Nat.pow 2 52) (exponent + 1)
      else ofParts negative mantissa exponent := rfl

end Binary64

namespace Finite64

open Binary64

/-- A number of the given parts is the number. -/
theorem ofParts_self (x : Finite64) :
    ofParts x.negative x.mantissa x.exponent = .finite x := by
  unfold ofParts
  rw [dif_pos ⟨x.mantissa_lt, x.exponent_le, x.normal⟩]

/-- The bounds that a quotient keeps to that reads back, over the common denominator. -/
structure Near (x : Finite64) (scaled den : Nat) : Prop where
  low : 4 * (x.mantissa * (den * Nat.pow 2 x.exponent)) ≤ 4 * scaled + x.slackBelow * den
  high : 4 * scaled ≤ 4 * (x.mantissa * (den * Nat.pow 2 x.exponent)) +
    2 * (den * Nat.pow 2 x.exponent)
  odd : x.mantissa % 2 = 1 →
    4 * (x.mantissa * (den * Nat.pow 2 x.exponent)) < 4 * scaled + x.slackBelow * den ∧
    4 * scaled < 4 * (x.mantissa * (den * Nat.pow 2 x.exponent)) + 2 * (den * Nat.pow 2 x.exponent)

theorem slackBelow_le (x : Finite64) : x.slackBelow ≤ 2 * Nat.pow 2 x.exponent := by
  unfold slackBelow
  split <;> omega

theorem near_of_readsBack {x : Finite64} {num den : Nat} (h : x.readsBack num den = true) :
    x.Near (num * denominator) den := by
  have hunit : num * Nat.pow 2 1076 = 4 * (num * denominator) := by
    have hpow : Nat.pow 2 1076 = denominator * 4 := by decide +kernel
    rw [hpow, ← Nat.mul_assoc, Nat.mul_comm]
  have hvalue : x.quarters * den = 4 * (x.mantissa * (den * Nat.pow 2 x.exponent)) := by
    unfold quarters
    rw [Nat.mul_right_comm, Nat.mul_comm _ 4, Nat.mul_comm den, Nat.mul_assoc x.mantissa]
  have hhigh : (x.quarters + x.slackAbove) * den =
      4 * (x.mantissa * (den * Nat.pow 2 x.exponent)) + 2 * (den * Nat.pow 2 x.exponent) := by
    rw [Nat.add_mul, hvalue]
    unfold slackAbove
    rw [Nat.mul_assoc, Nat.mul_comm den]
  have hlow : 4 * (x.mantissa * (den * Nat.pow 2 x.exponent)) ≤
      (x.quarters - x.slackBelow) * den + x.slackBelow * den := by
    rw [← Nat.add_mul, ← hvalue]
    exact Nat.mul_le_mul_right den (by omega)
  unfold readsBack at h
  dsimp only at h
  rw [hunit, hhigh] at h
  split at h
  · simp only [Bool.and_eq_true, decide_eq_true_eq] at h
    exact ⟨by omega, by omega, by omega⟩
  · simp only [Bool.and_eq_true, decide_eq_true_eq] at h
    exact ⟨by omega, by omega, by omega⟩

/-- At the number's own exponent the mantissa comes out. -/
theorem Near.roundQuotient {x : Finite64} {scaled den : Nat} (h : x.Near scaled den)
    (hden : 0 < den) :
    Binary64.roundQuotient scaled (den * Nat.pow 2 x.exponent) = x.mantissa := by
  have hpos : 0 < den * Nat.pow 2 x.exponent := Nat.mul_pos hden (Nat.pow_pos (by decide))
  have hslack : x.slackBelow * den ≤ 2 * (den * Nat.pow 2 x.exponent) := by
    rw [Nat.mul_comm den, ← Nat.mul_assoc]
    exact Nat.mul_le_mul_right den x.slackBelow_le
  obtain ⟨hlow, hhigh, hodd⟩ := h
  refine roundQuotient_eq hpos (by omega) (by omega) fun hparity => ?_
  have := hodd hparity
  omega

theorem ofRatio_of_exponent {x : Finite64} {num den : Nat}
    (h : x.Near (num * denominator) den) (hden : 0 < den)
    (hexponent : roundingExponent (num * denominator / den) = x.exponent) :
    ofRatio x.negative num den = .finite x := by
  have hmantissa : x.mantissa ≠ Nat.pow 2 53 := Nat.ne_of_lt x.mantissa_lt
  rw [ofRatio_eq]
  dsimp only
  rw [hexponent, h.roundQuotient hden, if_neg hmantissa, ofParts_self]

/-- The smallest exponent takes everything up to the greatest mantissa. -/
theorem Near.roundingExponent_of_zero {x : Finite64} {scaled den : Nat} (h : x.Near scaled den)
    (hden : 0 < den) (hzero : x.exponent = 0) : roundingExponent (scaled / den) = 0 := by
  have hlt := x.mantissa_lt
  have hhigh := h.high
  rw [hzero] at hhigh
  have hmantissa : (x.mantissa + 1) * den ≤ Nat.pow 2 53 * den := Nat.mul_le_mul_right den hlt
  rw [Nat.succ_mul] at hmantissa
  have hone : den * Nat.pow 2 0 = den := Nat.mul_one den
  rw [hone] at hhigh
  refine roundingExponent_of_lt ((Nat.div_lt_iff_lt_mul hden).2 ?_)
  omega

theorem pow_add_mul (k e den : Nat) :
    Nat.pow 2 (k + e) * den = Nat.pow 2 k * (den * Nat.pow 2 e) := by
  rw [Nat.mul_comm den, ← Nat.mul_assoc]
  exact congrArg (· * den) (Nat.pow_add 2 k e)

/-- A quotient that is not below the power of two of the number is rounded at the number's
exponent. -/
theorem Near.roundingExponent_of_le {x : Finite64} {scaled den : Nat} (h : x.Near scaled den)
    (hden : 0 < den)
    (hle : Nat.pow 2 52 * (den * Nat.pow 2 x.exponent) ≤ scaled) :
    roundingExponent (scaled / den) = x.exponent := by
  have hmantissa : (x.mantissa + 1) * (den * Nat.pow 2 x.exponent) ≤
      Nat.pow 2 53 * (den * Nat.pow 2 x.exponent) := Nat.mul_le_mul_right _ x.mantissa_lt
  have hpos : 0 < den * Nat.pow 2 x.exponent := Nat.mul_pos hden (Nat.pow_pos (by decide))
  rw [Nat.succ_mul] at hmantissa
  have hhigh := h.high
  refine roundingExponent_eq ((Nat.le_div_iff_mul_le hden).2 ?_)
    ((Nat.div_lt_iff_lt_mul hden).2 ?_)
  · rw [pow_add_mul]
    exact hle
  · rw [pow_add_mul]
    omega

/-- Below its power of two a number reads back as far as the steps there are wide, and is rounded
one exponent lower, where its mantissa is the first that does not fit. -/
theorem Near.ofRatio_of_lt {x : Finite64} {num den : Nat}
    (h : x.Near (num * denominator) den) (hden : 0 < den) (hpositive : 0 < x.exponent)
    (hlt : num * denominator < Nat.pow 2 52 * (den * Nat.pow 2 x.exponent)) :
    ofRatio x.negative num den = .finite x := by
  have hpos : 0 < den * Nat.pow 2 x.exponent := Nat.mul_pos hden (Nat.pow_pos (by decide))
  have hslack : x.slackBelow * den ≤ 2 * (den * Nat.pow 2 x.exponent) := by
    rw [Nat.mul_comm den, ← Nat.mul_assoc]
    exact Nat.mul_le_mul_right den x.slackBelow_le
  -- only the smallest mantissa is so near to the numbers below
  have hmantissa : x.mantissa = Nat.pow 2 52 := by
    refine Nat.le_antisymm (Nat.lt_succ_iff.1 (Nat.lt_of_mul_lt_mul_right
      (a := den * Nat.pow 2 x.exponent) ?_)) (x.normal.resolve_left (by omega))
    have hlow := h.low
    rw [Nat.succ_mul]
    omega
  obtain ⟨e, he⟩ : ∃ e, x.exponent = e + 1 := ⟨x.exponent - 1, by omega⟩
  have hstep : den * Nat.pow 2 x.exponent = 2 * (den * Nat.pow 2 e) := by
    rw [he, Nat.mul_left_comm, Nat.mul_comm 2]
    rfl
  have hbelow : x.slackBelow * den = 2 * (den * Nat.pow 2 e) := by
    unfold slackBelow
    rw [if_pos ⟨hmantissa, hpositive⟩, Nat.mul_comm, hstep]
  have hdouble : Nat.pow 2 52 * (2 * (den * Nat.pow 2 e)) =
      2 * (Nat.pow 2 52 * (den * Nat.pow 2 e)) := Nat.mul_left_comm _ _ _
  have hnext : Nat.pow 2 53 * (den * Nat.pow 2 e) =
      2 * (Nat.pow 2 52 * (den * Nat.pow 2 e)) := by
    rw [← hdouble]
    exact Nat.mul_assoc (Nat.pow 2 52) 2 _
  have hlow := h.low
  rw [hmantissa, hstep, hbelow] at hlow
  rw [hdouble] at hlow
  rw [hstep, hdouble] at hlt
  have hunit : den * Nat.pow 2 e ≤ Nat.pow 2 52 * (den * Nat.pow 2 e) :=
    Nat.le_mul_of_pos_left _ (by decide)
  have hexponent : roundingExponent (num * denominator / den) = e := by
    refine roundingExponent_eq ((Nat.le_div_iff_mul_le hden).2 ?_)
      ((Nat.div_lt_iff_lt_mul hden).2 ?_)
    · rw [pow_add_mul]
      omega
    · rw [pow_add_mul, hnext]
      omega
  have hrounded : Binary64.roundQuotient (num * denominator) (den * Nat.pow 2 e) = Nat.pow 2 53 :=
    roundQuotient_eq (by omega) (by omega) (by omega) fun hodd => absurd hodd (by decide)
  rw [ofRatio_eq]
  dsimp only
  rw [hexponent, hrounded, if_pos rfl, ← hmantissa, ← he, ofParts_self]

/-- **What reads back is rounded to the number.** -/
theorem ofRatio_of_readsBack {x : Finite64} {num den : Nat} (hden : 0 < den)
    (h : x.readsBack num den = true) : ofRatio x.negative num den = .finite x := by
  have hnear := near_of_readsBack h
  rcases Nat.eq_zero_or_pos x.exponent with hzero | hpositive
  · exact ofRatio_of_exponent hnear hden
      ((hnear.roundingExponent_of_zero hden hzero).trans hzero.symm)
  · rcases Nat.lt_or_ge (num * denominator) (Nat.pow 2 52 * (den * Nat.pow 2 x.exponent)) with
      hlt | hle
    · exact hnear.ofRatio_of_lt hden hpositive hlt
    · exact ofRatio_of_exponent hnear hden (hnear.roundingExponent_of_le hden hle)

end Finite64

end Issuance
