import Issuance.Claims.Calendar
import Issuance.Proofs.Text.Decimal

/-!
# Issuance.Proofs.Claims.Calendar

**Dates are read back from their notation.** Each part of a date fits into its digits, since the
months are twelve and no month has more than 31 days, so the parts are read off one after the other
(`readPrefix?_text`).
-/

namespace Issuance

namespace Date

/-! ### Digits of a fixed count -/

theorem areDigits_fixedDigits (width n : Nat) : Text.AreDigits (fixedDigits width n) := by
  induction width generalizing n with
  | zero => intro c hc; cases hc
  | succ width ih =>
    refine (ih _).append fun c hc => ?_
    rw [List.mem_singleton.1 hc]
    exact Text.isDigit_ofNat _ (Nat.mod_lt n (by decide))

/-- The digits that are left out are those in front. -/
theorem digitsValue_fixedDigits (width n : Nat) :
    Text.digitsValue (fixedDigits width n) = n % Nat.pow 10 width := by
  induction width generalizing n with
  | zero =>
    rw [show Nat.pow 10 0 = 1 from rfl, Nat.mod_one]
    rfl
  | succ width ih =>
    rw [fixedDigits, Text.digitsValue_concat, ih, Text.value_ofNat_sub _ (Nat.mod_lt n (by decide))]
    have hsplit : n % (10 * Nat.pow 10 width) = n % 10 + 10 * (n / 10 % Nat.pow 10 width) :=
      Nat.mod_mul
    have hpow : Nat.pow 10 (width + 1) = 10 * Nat.pow 10 width := Nat.pow_succ'
    rw [hpow, hsplit]
    omega

theorem digitsValue_fixedDigits_of_lt {width n : Nat} (h : n < Nat.pow 10 width) :
    Text.digitsValue (fixedDigits width n) = n := by
  rw [digitsValue_fixedDigits, Nat.mod_eq_of_lt h]

/-! ### The parts of a date -/

theorem daysInMonth_le (year month : Nat) : Calendar.daysInMonth year month ≤ 31 := by
  unfold Calendar.daysInMonth
  split
  -- February has one of two counts of days
  all_goals first | decide | (split <;> decide)

theorem daysInMonth_of_lt {year month : Nat} (h : 12 < month) :
    Calendar.daysInMonth year month = 0 := by
  unfold Calendar.daysInMonth
  split <;> omega

/-- The parts of a date fit into four digits, two and two. -/
theorem parts_lt (d : Date) : d.year < 10000 ∧ d.month < 100 ∧ d.day < 100 := by
  have h := d.isDate
  simp only [Calendar.isDate, Bool.and_eq_true, decide_eq_true_eq] at h
  obtain ⟨⟨⟨-, hyear⟩, hfirst⟩, hlast⟩ := h
  have hdays := daysInMonth_le d.year d.month
  have hmonth : d.month ≤ 12 := by
    by_contra hgt
    rw [daysInMonth_of_lt (Nat.lt_of_not_le hgt)] at hlast
    omega
  omega

theorem ofParts?_parts (d : Date) : ofParts? d.year d.month d.day = some d := dif_pos d.isDate

/-- **A date is read off its notation**, and what follows it is left. -/
theorem readPrefix?_text (d : Date) (rest : Text) :
    readPrefix? (d.text ++ rest) = some (d, rest) := by
  obtain ⟨hyear, hmonth, hday⟩ := d.parts_lt
  obtain ⟨y₁, y₂, y₃, y₄, hy⟩ : ∃ y₁ y₂ y₃ y₄, fixedDigits 4 d.year = [y₁, y₂, y₃, y₄] :=
    ⟨_, _, _, _, rfl⟩
  obtain ⟨m₁, m₂, hm⟩ : ∃ m₁ m₂, fixedDigits 2 d.month = [m₁, m₂] := ⟨_, _, rfl⟩
  obtain ⟨d₁, d₂, hd⟩ : ∃ d₁ d₂, fixedDigits 2 d.day = [d₁, d₂] := ⟨_, _, rfl⟩
  have hdigits : [y₁, y₂, y₃, y₄, m₁, m₂, d₁, d₂].all CodePoint.isDigit = true := by
    have hall : Text.AreDigits ([y₁, y₂, y₃, y₄] ++ [m₁, m₂] ++ [d₁, d₂]) := by
      rw [← hy, ← hm, ← hd]
      exact ((areDigits_fixedDigits 4 _).append (areDigits_fixedDigits 2 _)).append
        (areDigits_fixedDigits 2 _)
    exact List.all_eq_true.2 hall
  have htext : d.text ++ rest = y₁ :: y₂ :: y₃ :: y₄ :: ('-' : CodePoint) :: m₁ :: m₂ ::
      ('-' : CodePoint) :: d₁ :: d₂ :: rest := by
    unfold text
    rw [hy, hm, hd]
    rfl
  rw [htext, readPrefix?, if_pos ⟨rfl, rfl, hdigits⟩, ← hy, ← hm, ← hd,
    digitsValue_fixedDigits_of_lt hyear, digitsValue_fixedDigits_of_lt hmonth,
    digitsValue_fixedDigits_of_lt hday, ofParts?_parts]
  rfl

end Date

end Issuance
