import Issuance.Bytes.Hex
import Issuance.Proofs.Text.Ascii

/-!
# Issuance.Proofs.Bytes.Hex

Hexadecimal notation is read back as the bytes it was written from, and has two small digits for
each of them. What is read is wider than what is written: pairs of digits in either case, with white
space around them (`decode?_isSome_iff`).
-/

namespace Issuance

namespace Hex

theorem hexDigit?_ofHexDigit : ∀ n < 16, (CodePoint.ofHexDigit n).hexDigit? = some n := by decide

theorem isSeparator_ofHexDigit : ∀ n < 16, isSeparator (CodePoint.ofHexDigit n) = false := by
  decide

theorem encode_cons (b : UInt8) (bs : Bytes) :
    encode (b :: bs) = CodePoint.ofHexDigit (b.toNat / 16) ::
      CodePoint.ofHexDigit (b.toNat % 16) :: encode bs := rfl

/-- **Reading undoes writing.** -/
theorem decode?_encode (bs : Bytes) : decode? (encode bs) = some bs := by
  induction bs with
  | nil => rfl
  | cons b bs ih =>
    have hb := b.toNat_lt
    have hhigh : b.toNat / 16 < 16 := by omega
    have hlow : b.toNat % 16 < 16 := by omega
    have hbyte : b.toNat / 16 * 16 + b.toNat % 16 = b.toNat := by omega
    rw [encode_cons, decode?, isSeparator_ofHexDigit _ hhigh, if_neg Bool.false_ne_true,
      hexDigit?_ofHexDigit _ hhigh, hexDigit?_ofHexDigit _ hlow, ih]
    show some (UInt8.ofNat (b.toNat / 16 * 16 + b.toNat % 16) :: bs) = some (b :: bs)
    rw [hbyte, UInt8.ofNat_toNat]

theorem length_encode (bs : Bytes) : (encode bs).length = 2 * bs.length := by
  induction bs with
  | nil => rfl
  | cons b bs ih =>
    rw [encode_cons, List.length_cons, List.length_cons, ih, List.length_cons]
    omega

/-- What holds of the sixteen digits holds of every digit that is written. -/
theorem forall_mem_encode {p : CodePoint → Bool} (h : ∀ n < 16, p (CodePoint.ofHexDigit n) = true)
    {bs : Bytes} : ∀ c ∈ encode bs, p c = true := by
  intro c hc
  obtain ⟨b, -, hc⟩ := List.mem_flatMap.1 hc
  have hb := b.toNat_lt
  simp only [List.mem_cons, List.not_mem_nil, or_false] at hc
  rcases hc with rfl | rfl <;> exact h _ (by omega)

/-! ### What is read -/

theorem isSome_hexDigit?_iff {c : CodePoint} : c.hexDigit?.isSome ↔
    0x30 ≤ c.value ∧ c.value ≤ 0x39 ∨ 0x41 ≤ c.value ∧ c.value ≤ 0x46 ∨
      0x61 ≤ c.value ∧ c.value ≤ 0x66 := by
  unfold CodePoint.hexDigit?
  repeat' split
  all_goals simp only [Option.isSome_some, Option.isSome_none, Bool.false_eq_true, true_iff,
    false_iff]
  all_goals omega

theorem isSeparator_iff {c : CodePoint} :
    isSeparator c = true ↔ 0x09 ≤ c.value ∧ c.value ≤ 0x0D ∨ c.value = 0x20 := by
  simp only [isSeparator, Bool.or_eq_true, Bool.and_eq_true, decide_eq_true_eq, beq_iff_eq]

theorem not_isSeparator_of_digit {c : CodePoint} (h : c.hexDigit?.isSome) :
    isSeparator c = false := by
  rw [isSome_hexDigit?_iff] at h
  rw [Bool.eq_false_iff, ne_eq, isSeparator_iff]
  omega

/-- Pairs of digits, with white space before, between and after them. -/
inductive Pairs : Text → Prop
  | nil : Pairs []
  | blank {c : CodePoint} {t : Text} : isSeparator c = true → Pairs t → Pairs (c :: t)
  | pair {c d : CodePoint} {t : Text} : c.hexDigit?.isSome → d.hexDigit?.isSome → Pairs t →
    Pairs (c :: d :: t)

theorem decode?_blank {c : CodePoint} (hc : isSeparator c = true) (t : Text) :
    decode? (c :: t) = decode? t := by
  cases t with
  | nil => exact if_pos hc
  | cons d t => rw [decode?, if_pos hc]

/-- **What is read is pairs of digits.** -/
theorem decode?_isSome_iff {t : Text} : (decode? t).isSome ↔ Pairs t := by
  constructor
  · intro h
    fun_induction decode? t with
    | case1 => exact .nil
    | case2 c hc => exact .blank hc .nil
    | case3 c hc => cases h
    | case4 c d t hc ih => exact .blank hc (ih h)
    | case5 c d t hc high low hlow hhigh ih =>
      rw [Option.isSome_map] at h
      exact .pair (by rw [hhigh]; rfl) (by rw [hlow]; rfl) (ih h)
    | case6 c d t hc hnone => cases h
  · intro h
    induction h with
    | nil => rfl
    | blank hc _ ih => rwa [decode?_blank hc]
    | pair hc hd _ ih =>
      obtain ⟨high, hhigh⟩ := Option.isSome_iff_exists.1 hc
      obtain ⟨low, hlow⟩ := Option.isSome_iff_exists.1 hd
      rwa [decode?, not_isSeparator_of_digit hc, if_neg Bool.false_ne_true, hhigh, hlow,
        Option.isSome_map]

namespace Pairs

variable {t : Text}

/-- There is nothing but digits and white space. -/
theorem mem (h : Pairs t) : ∀ c ∈ t, c.hexDigit?.isSome ∨ isSeparator c = true := by
  induction h with
  | nil => exact List.forall_mem_nil _
  | blank hc _ ih => exact List.forall_mem_cons.2 ⟨.inr hc, ih⟩
  | pair hc hd _ ih => exact List.forall_mem_cons.2 ⟨.inl hc, List.forall_mem_cons.2 ⟨.inl hd, ih⟩⟩

/-- An even number of digits is pairs of them. -/
theorem of_digits (h : ∀ c ∈ t, c.hexDigit?.isSome) {count : Nat} (hlength : t.length = 2 * count) :
    Pairs t := by
  induction count generalizing t with
  | zero =>
    rw [List.length_eq_zero_iff.1 hlength]
    exact .nil
  | succ count ih =>
    match t, hlength with
    | c :: d :: t, hlength =>
      simp only [List.forall_mem_cons] at h
      refine .pair h.1 h.2.1 (ih h.2.2 ?_)
      simp only [List.length_cons] at hlength
      omega

/-- Pairs of digits are the same in small letters. -/
theorem toLowerAscii (h : Pairs t) : Pairs (t.map CodePoint.toLowerAscii) := by
  have hsmall : ∀ {n}, n < 0x80 → (CodePoint.ofNat n).value = n := by
    intro n hn
    exact CodePoint.value_ofNat (by omega)
  have hdigit : ∀ {c : CodePoint}, c.hexDigit?.isSome → c.toLowerAscii.hexDigit?.isSome := by
    intro c hc
    rw [isSome_hexDigit?_iff] at hc ⊢
    unfold CodePoint.toLowerAscii
    split
    · rw [hsmall (by omega)]
      omega
    · exact hc
  have hblank : ∀ {c : CodePoint}, isSeparator c = true → c.toLowerAscii = c := by
    intro c hc
    rw [isSeparator_iff] at hc
    exact if_neg (by omega)
  induction h with
  | nil => exact .nil
  | blank hc _ ih =>
    rw [List.map_cons, hblank hc]
    exact .blank hc ih
  | pair hc hd _ ih => exact .pair (hdigit hc) (hdigit hd) ih

end Pairs

end Hex

end Issuance
