import Issuance.Bytes.Base64
import Issuance.Proofs.Text.Ascii
import Issuance.Proofs.Text.Pieces

/-!
# Issuance.Proofs.Bytes.Alphabet

**The characters of a segment.** Letters, digits, the minus sign and the underscore have a value in
the URL alphabet, and no other character has one (`urlValue?_isSome`). The strict reader accepts
nothing beside them but padding (`mem_of_decodeStrictUrl?`).
-/

namespace Issuance

namespace Base64

/-- A letter of ASCII, a digit, a minus sign or an underscore. -/
def isUrlChar (c : CodePoint) : Bool :=
  (0x41 ≤ c.value && c.value ≤ 0x5A) || (0x61 ≤ c.value && c.value ≤ 0x7A) ||
    (0x30 ≤ c.value && c.value ≤ 0x39) || c.value == 0x2D || c.value == 0x5F

theorem isUrlChar_iff {c : CodePoint} : isUrlChar c = true ↔
    (0x41 ≤ c.value ∧ c.value ≤ 0x5A ∨ 0x61 ≤ c.value ∧ c.value ≤ 0x7A ∨
      0x30 ≤ c.value ∧ c.value ≤ 0x39) ∨ c.value = 0x2D ∨ c.value = 0x5F := by
  unfold isUrlChar
  simp only [Bool.or_eq_true, Bool.and_eq_true, decide_eq_true_eq, beq_iff_eq]
  omega

theorem letterOrDigit?_isSome {c : CodePoint} : (letterOrDigit? c).isSome = true ↔
    0x41 ≤ c.value ∧ c.value ≤ 0x5A ∨ 0x61 ≤ c.value ∧ c.value ≤ 0x7A ∨
      0x30 ≤ c.value ∧ c.value ≤ 0x39 := by
  unfold letterOrDigit?
  dsimp only
  split
  · simp_all
  · split
    · simp_all
    · split <;> simp_all

theorem urlValue?_isSome {c : CodePoint} : (urlValue? c).isSome = true ↔ isUrlChar c = true := by
  rw [isUrlChar_iff]
  unfold urlValue?
  split
  · simp_all
  · split
    · simp_all
    · rw [letterOrDigit?_isSome]
      omega

theorem isAscii_of_isUrlChar {c : CodePoint} (h : isUrlChar c = true) : c.isAscii = true := by
  rw [isUrlChar_iff] at h
  refine decide_eq_true ?_
  omega

/-! ### The strict reader -/

theorem mem_of_decodeExactly? {value? : CodePoint → Option Nat} {t : Text} {bs : Bytes}
    (h : decodeExactly? value? t = some bs) : ∀ c ∈ t, (value? c).isSome = true := by
  fun_induction decodeExactly? value? t generalizing bs with
  | case1 => simp
  | case2 => cases h
  | case3 a b =>
    simp only [Option.bind_eq_bind, Option.bind_eq_some_iff] at h
    obtain ⟨x, hx, y, hy, -⟩ := h
    simp [hx, hy]
  | case4 a b c =>
    simp only [Option.bind_eq_bind, Option.bind_eq_some_iff] at h
    obtain ⟨x, hx, y, hy, z, hz, -⟩ := h
    simp [hx, hy, hz]
  | case5 a b c d t ih =>
    simp only [Option.bind_eq_bind, Option.bind_eq_some_iff] at h
    obtain ⟨x, hx, y, hy, z, hz, w, hw, rest, hrest, -⟩ := h
    simp only [List.mem_cons, forall_eq_or_imp, hx, hy, hz, hw, Option.isSome_some, true_and]
    exact ih hrest

/-- The strict reader accepts the alphabet and padding. -/
theorem mem_of_decodeStrictUrl? {t : Text} {bs : Bytes} (h : decodeStrictUrl? t = some bs) :
    ∀ c ∈ t, isUrlChar c = true ∨ c.value = 0x3D := by
  intro c hc
  unfold decodeStrictUrl? at h
  split at h
  · unfold decodeCompleted? at h
    dsimp only at h
    split at h
    · obtain ⟨padding, heq, hpadding⟩ := Text.exists_trimEndBy_eq (·.value == 0x3D) t
      rw [heq] at hc
      rcases List.mem_append.1 hc with hc | hc
      · exact Or.inl (urlValue?_isSome.1 (mem_of_decodeExactly? h c hc))
      · exact Or.inr (beq_iff_eq.1 (hpadding c hc))
    · cases h
  · exact Or.inl (urlValue?_isSome.1 (mem_of_decodeExactly? h c hc))

end Base64

end Issuance
