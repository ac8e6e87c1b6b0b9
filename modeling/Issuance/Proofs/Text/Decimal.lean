import Issuance.Text.CodePoint
import Mathlib.Data.List.Basic
import Mathlib.Data.List.Induction

/-!
# Issuance.Proofs.Text.Decimal

**Decimal notation.** `Text.ofNat` writes digits, none too many, and `Text.digitsValue` reads them
back. The count of digits says how great the number is.
-/

namespace Issuance

namespace Text

/-- Made of digits. -/
def AreDigits (t : Text) : Prop := ∀ c ∈ t, c.isDigit = true

theorem AreDigits.append {s t : Text} (hs : AreDigits s) (ht : AreDigits t) :
    AreDigits (s ++ t) := by
  intro c hc
  rcases List.mem_append.1 hc with hc | hc
  · exact hs c hc
  · exact ht c hc

theorem areDigits_zeros (count : Nat) : AreDigits (List.replicate count ('0' : CodePoint)) := by
  intro c hc
  rw [List.eq_of_mem_replicate hc]
  decide

/-- The digit of a number below ten. -/
theorem isDigit_ofNat : ∀ d < 10, (CodePoint.ofNat (0x30 + d)).isDigit = true := by decide

theorem value_ofNat_sub : ∀ d < 10, (CodePoint.ofNat (0x30 + d)).value - 0x30 = d := by decide

theorem areDigits_ofNat (n : Nat) : AreDigits (ofNat n) := by
  induction n using ofNat.induct with
  | case1 n hlt =>
    rw [ofNat, if_pos hlt]
    intro c hc
    rw [List.mem_singleton.1 hc]
    exact isDigit_ofNat n hlt
  | case2 n hge ih =>
    rw [ofNat, if_neg hge]
    refine ih.append fun c hc => ?_
    rw [List.mem_singleton.1 hc]
    exact isDigit_ofNat _ (Nat.mod_lt n (by decide))

theorem ofNat_ne_nil (n : Nat) : ofNat n ≠ [] := by
  unfold ofNat
  split <;> simp

/-- A positive number has no leading zero. -/
theorem head?_ofNat {n : Nat} (h : 0 < n) : (ofNat n).head? ≠ some ('0' : CodePoint) := by
  have hdigit : ∀ d < 10, 0 < d → CodePoint.ofNat (0x30 + d) ≠ '0' := by decide
  induction n using ofNat.induct with
  | case1 n hlt =>
    rw [ofNat, if_pos hlt, List.head?_cons]
    intro heq
    exact hdigit n hlt h (Option.some.inj heq)
  | case2 n hge ih =>
    rw [ofNat, if_neg hge, List.head?_append_of_ne_nil _ (ofNat_ne_nil _)]
    exact ih (by omega)

/-! ### The value of digits -/

theorem digitsValue_concat (t : Text) (c : CodePoint) :
    digitsValue (t ++ [c]) = digitsValue t * 10 + (c.value - 0x30) := by
  unfold digitsValue
  rw [List.foldl_concat]

/-- **Reading undoes writing.** -/
theorem digitsValue_ofNat (n : Nat) : digitsValue (ofNat n) = n := by
  induction n using ofNat.induct with
  | case1 n hlt =>
    rw [ofNat, if_pos hlt]
    show 0 * 10 + _ = n
    rw [value_ofNat_sub n hlt]
    omega
  | case2 n hge ih =>
    rw [ofNat, if_neg hge, digitsValue_concat, ih, value_ofNat_sub _ (Nat.mod_lt n (by decide))]
    omega

/-- Digits before others count ten times as much for each of these. -/
theorem digitsValue_append (s t : Text) :
    digitsValue (s ++ t) = digitsValue s * Nat.pow 10 t.length + digitsValue t := by
  induction t using List.reverseRecOn with
  | nil => simp [digitsValue]
  | append_singleton t c ih =>
    rw [← List.append_assoc, digitsValue_concat, digitsValue_concat, ih, List.length_append]
    show _ = digitsValue s * (Nat.pow 10 t.length * 10) + _
    rw [Nat.add_mul, ← Nat.mul_assoc, Nat.add_assoc]

theorem digitsValue_zeros (count : Nat) :
    digitsValue (List.replicate count ('0' : CodePoint)) = 0 := by
  induction count with
  | zero => rfl
  | succ count ih =>
    rw [List.replicate_succ', digitsValue_concat, ih]
    rfl

theorem digitsValue_lt {t : Text} (h : AreDigits t) : digitsValue t < Nat.pow 10 t.length := by
  induction t using List.reverseRecOn with
  | nil => decide
  | append_singleton t c ih =>
    have ht := ih fun d hd => h d (List.mem_append_left _ hd)
    have hc := h c (List.mem_append_right _ List.mem_cons_self)
    simp only [CodePoint.isDigit, Bool.and_eq_true, decide_eq_true_eq] at hc
    rw [digitsValue_concat, List.length_append]
    show _ < Nat.pow 10 t.length * 10
    omega

/-- A number is below the power of ten that its count of digits names. -/
theorem lt_pow_length_ofNat (n : Nat) : n < Nat.pow 10 (ofNat n).length := by
  have h := digitsValue_lt (areDigits_ofNat n)
  rwa [digitsValue_ofNat] at h

/-- A positive number is at least the power of ten of its first digit. -/
theorem pow_length_ofNat_le {n : Nat} (h : 0 < n) :
    Nat.pow 10 ((ofNat n).length - 1) ≤ n := by
  induction n using ofNat.induct with
  | case1 n hlt =>
    rw [ofNat, if_pos hlt]
    exact h
  | case2 n hge ih =>
    have hlength : 0 < (ofNat (n / 10)).length := List.length_pos_iff.2 (ofNat_ne_nil _)
    have hpow : Nat.pow 10 (ofNat (n / 10)).length =
        Nat.pow 10 ((ofNat (n / 10)).length - 1) * 10 := by
      obtain ⟨k, hk⟩ : ∃ k, (ofNat (n / 10)).length = k + 1 :=
        ⟨_, (Nat.sub_add_cancel hlength).symm⟩
      rw [hk]
      rfl
    have hrest := ih (by omega)
    rw [ofNat, if_neg hge, List.length_append, List.length_singleton, Nat.add_sub_cancel, hpow]
    omega

end Text

end Issuance
