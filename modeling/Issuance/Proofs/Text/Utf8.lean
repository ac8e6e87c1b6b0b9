import Issuance.Text.Utf8
import Mathlib.Algebra.Group.Nat.Defs

/-!
# Issuance.Proofs.Text.Utf8

**Decoding undoes encoding** (`decode?_encode?`). A sequence is read from its first byte, which says
how many follow and, for the lowest and the highest numbers of a length, in which narrower range the
second byte is. A code point that is no surrogate is always in that range, and a surrogate never is:
nothing is decoded as a lone surrogate (`not_surrogate_of_decodeWith`). Since a sequence tells its
own length, what is decoded stays so whatever follows it (`decode?_append`).
-/

namespace Issuance

namespace Text

/-- A text without lone surrogates. -/
def IsScalar (t : Text) : Prop := ∀ c ∈ t, c.isSurrogate = false

instance (t : Text) : Decidable t.IsScalar := inferInstanceAs (Decidable (∀ c ∈ t, _ = _))

theorem isScalar_of_any {t : Text} (h : t.any CodePoint.isSurrogate = false) : IsScalar t := by
  intro c hc
  simpa using List.any_eq_false.1 h c hc

theorem IsScalar.any {t : Text} (h : t.IsScalar) : t.any CodePoint.isSurrogate = false := by
  rw [List.any_eq_false]
  intro c hc
  rw [h c hc]
  exact Bool.false_ne_true

theorem isScalar_of_isAscii {t : Text} (h : t.isAscii = true) : t.IsScalar := by
  intro c hc
  have hlt : c.value < 0x80 := of_decide_eq_true (List.all_eq_true.1 h c hc)
  simp only [CodePoint.isSurrogate, Bool.and_eq_false_iff, decide_eq_false_iff_not]
  omega

end Text

namespace Utf8

theorem toNat_ofNat {n : Nat} (h : n < 0x100) : (UInt8.ofNat n).toNat = n := by
  rw [UInt8.toNat_ofNat']
  exact Nat.mod_eq_of_lt h

/-- A byte that follows brings six bits. -/
theorem following_tail {low high d : Nat} (hd : d < 0x40) (hlow : low ≤ 0x80 + d)
    (hhigh : 0x80 + d ≤ high) (k bits : Nat) (bs : Bytes) :
    following (k + 1) bits low high (UInt8.ofNat (0x80 + d) :: bs) =
      following k (bits * 0x40 + d) 0x80 0xBF bs := by
  rw [following, toNat_ofNat (by omega), if_pos ⟨hlow, hhigh⟩, Nat.add_sub_cancel_left]

/-- The demands of the first of three bytes: the second is restricted after the lowest, and after
the one that the surrogates would have. -/
theorem lead?_three {m : Nat} (h : m < 0x10) : lead? false (UInt8.ofNat (0xE0 + m)) =
    some ⟨2, m, if m = 0 then 0xA0 else 0x80, if m = 0xD then 0x9F else 0xBF⟩ := by
  by_cases hlowest : m = 0
  · subst hlowest
    rfl
  · by_cases hsurrogate : m = 0xD
    · subst hsurrogate
      rfl
    · unfold lead?
      dsimp only
      rw [toNat_ofNat (by omega), if_neg (by omega), if_neg (by omega), if_neg (by omega),
        if_pos (by omega), if_neg hlowest, if_neg hsurrogate, Nat.add_sub_cancel_left]

/-- The demands of the first of four bytes: the second is restricted after the lowest and after the
highest. -/
theorem lead?_four {m : Nat} (h : m < 5) : lead? false (UInt8.ofNat (0xF0 + m)) =
    some ⟨3, m, if m = 0 then 0x90 else 0x80, if m = 4 then 0x8F else 0xBF⟩ := by
  match m, h with
  | 0, _ => rfl
  | 1, _ => rfl
  | 2, _ => rfl
  | 3, _ => rfl
  | 4, _ => rfl

/-- The sequence of a code point that is no surrogate is read as its number. -/
theorem scalar?_encodePoint {c : CodePoint} (h : c.isSurrogate = false) :
    ∃ b bs, encodePoint c = b :: bs ∧
      ∀ rest, scalar? false b (bs ++ rest) = (some c.value, rest) := by
  obtain ⟨n, hn⟩ := c
  simp only [CodePoint.isSurrogate, Bool.and_eq_false_iff, decide_eq_false_iff_not] at h
  unfold encodePoint
  dsimp only
  split
  · rename_i hone
    refine ⟨_, _, rfl, fun rest => ?_⟩
    unfold scalar?
    rw [toNat_ofNat (by omega), if_pos hone]
    rfl
  · split
    · rename_i hone htwo
      refine ⟨_, _, rfl, fun rest => ?_⟩
      have hlead : lead? false (UInt8.ofNat (0xC0 + n / 0x40)) =
          some ⟨1, n / 0x40, 0x80, 0xBF⟩ := by
        unfold lead?
        dsimp only
        rw [toNat_ofNat (by omega), if_pos (by omega), Nat.add_sub_cancel_left]
      unfold scalar?
      rw [toNat_ofNat (by omega), if_neg (by omega), hlead]
      dsimp only
      rw [List.singleton_append, following_tail (by omega) (by omega) (by omega), following]
      congr 2
      omega
    · split
      · rename_i hone htwo hthree
        refine ⟨_, _, rfl, fun rest => ?_⟩
        unfold scalar?
        rw [toNat_ofNat (by omega), if_neg (by omega), lead?_three (by omega)]
        dsimp only
        rw [List.cons_append, List.singleton_append,
          following_tail (by omega) (by split <;> omega) (by split <;> omega),
          following_tail (by omega) (by omega) (by omega), following]
        congr 2
        omega
      · rename_i hone htwo hthree
        refine ⟨_, _, rfl, fun rest => ?_⟩
        unfold scalar?
        rw [toNat_ofNat (by omega), if_neg (by omega), lead?_four (by omega)]
        dsimp only
        rw [List.cons_append, List.cons_append, List.singleton_append,
          following_tail (by omega) (by split <;> omega) (by split <;> omega),
          following_tail (by omega) (by omega) (by omega),
          following_tail (by omega) (by omega) (by omega), following]
        congr 2
        omega

theorem encode?_of_isScalar {t : Text} (h : t.IsScalar) :
    encode? t = some (t.flatMap encodePoint) := by
  unfold encode?
  rw [h.any]
  rfl

/-- What has a UTF-8 form has no lone surrogates. -/
theorem isScalar_of_encode? {t : Text} {bs : Bytes} (h : encode? t = some bs) : t.IsScalar := by
  unfold encode? at h
  split at h
  · cases h
  · rename_i hany
    exact Text.isScalar_of_any (Bool.eq_false_iff.2 hany)

/-- The bytes of a text are well formed: nothing in them is repaired. -/
theorem decodeWith_encoded {t : Text} (h : t.IsScalar) (repair : Option CodePoint) :
    decodeWith false repair (t.flatMap encodePoint) = some t := by
  induction t with
  | nil => rw [List.flatMap_nil, decodeWith]
  | cons c t ih =>
    obtain ⟨hc, ht⟩ := List.forall_mem_cons.1 h
    obtain ⟨b, bs, hpoint, hread⟩ := scalar?_encodePoint hc
    rw [List.flatMap_cons, hpoint, List.cons_append, decodeWith, hread]
    dsimp only
    rw [Option.map_some, Option.some_or, CodePoint.ofNat_value]
    dsimp only
    rw [ih ht]
    rfl

/-- **Decoding undoes encoding.** -/
theorem decode?_encode? {t : Text} {bs : Bytes} (h : encode? t = some bs) :
    decode? bs = some t := by
  have hscalar := isScalar_of_encode? h
  rw [encode?_of_isScalar hscalar] at h
  cases h
  exact decodeWith_encoded hscalar none

theorem decodeLossy_encoded {t : Text} (h : t.IsScalar) :
    decodeLossy (t.flatMap encodePoint) = t := by
  unfold decodeLossy
  rw [decodeWith_encoded h]
  rfl

theorem encode?_append {s t : Text} {a b : Bytes} (hs : encode? s = some a)
    (ht : encode? t = some b) : encode? (s ++ t) = some (a ++ b) := by
  unfold encode? at *
  rw [List.any_append, List.flatMap_append]
  split at hs
  · cases hs
  · split at ht
    · cases ht
    · rename_i hs' ht'
      cases hs
      cases ht
      rw [if_neg (by simp [hs', ht'])]

/-! ### More bytes after what is decoded -/

theorem following_append {k bits low high n : Nat} {bs rest : Bytes}
    (h : following k bits low high bs = (some n, rest)) (more : Bytes) :
    following k bits low high (bs ++ more) = (some n, rest ++ more) := by
  induction k generalizing bits low high bs with
  | zero =>
    rw [following] at h ⊢
    cases h
    rfl
  | succ k ih =>
    cases bs with
    | nil =>
      rw [following] at h
      cases h
    | cons b bs =>
      rw [List.cons_append]
      rw [following] at h ⊢
      split at h
      · rename_i hb
        rw [if_pos hb]
        exact ih h
      · cases h

theorem scalar?_append {b : UInt8} {bs rest : Bytes} {n : Nat}
    (h : scalar? false b bs = (some n, rest)) (more : Bytes) :
    scalar? false b (bs ++ more) = (some n, rest ++ more) := by
  unfold scalar? at h ⊢
  split at h
  · rename_i hb
    rw [if_pos hb]
    cases h
    rfl
  · rename_i hb
    rw [if_neg hb]
    split at h
    · cases h
    · exact following_append h more

/-- Bytes that are read one after the other are read as one. -/
theorem decode?_append {a b : Bytes} {s t : Text} (ha : decode? a = some s)
    (hb : decode? b = some t) : decode? (a ++ b) = some (s ++ t) := by
  unfold decode? at ha hb ⊢
  fun_induction decodeWith false none a generalizing s with
  | case1 =>
    cases ha
    exact hb
  | case2 first a hnone => cases ha
  | case3 first a c hread ih =>
    obtain ⟨u, hu, rfl⟩ := Option.map_eq_some_iff.1 ha
    rw [Option.or_none] at hread
    obtain ⟨n, hn, hc⟩ := Option.map_eq_some_iff.1 hread
    have hscalar := scalar?_append (Prod.ext hn rfl) b
    rw [List.cons_append, decodeWith, hscalar, Option.map_some, hc, Option.some_or]
    dsimp only
    rw [ih hu]
    rfl

/-! ### What is decoded -/

/-- Invert the bytes that follow a first byte: the next is in its range and brings six bits. -/
theorem following_succ_eq_some {k bits low high n : Nat} {bs rest : Bytes}
    (h : following (k + 1) bits low high bs = (some n, rest)) :
    ∃ d bs', 0x80 + d ≥ low ∧ d ≤ high - 0x80 ∧
      following k (bits * 0x40 + d) 0x80 0xBF bs' = (some n, rest) := by
  cases bs with
  | nil =>
    rw [following] at h
    cases h
  | cons b bs =>
    rw [following] at h
    split at h
    · rename_i hb
      exact ⟨b.toNat - 0x80, bs, by omega, by omega, h⟩
    · cases h

/-- Every byte that follows brings six bits, so the first bits are the highest. -/
theorem following_range {k bits n : Nat} {bs rest : Bytes}
    (h : following k bits 0x80 0xBF bs = (some n, rest)) :
    bits * 0x40 ^ k ≤ n ∧ n < (bits + 1) * 0x40 ^ k := by
  induction k generalizing bits bs with
  | zero =>
    rw [following] at h
    obtain rfl : bits = n := Option.some.inj (congrArg Prod.fst h)
    omega
  | succ k ih =>
    obtain ⟨d, bs', -, hd, hrest⟩ := following_succ_eq_some h
    obtain ⟨hleast, hmost⟩ := ih hrest
    rw [Nat.pow_succ', ← Nat.mul_assoc, ← Nat.mul_assoc]
    constructor
    · exact Nat.le_trans (Nat.mul_le_mul_right _ (by omega)) hleast
    · exact Nat.lt_of_lt_of_le hmost (Nat.mul_le_mul_right _ (by omega))

/-- No sequence is read as a surrogate. -/
theorem not_surrogate_of_scalar? {b : UInt8} {bs rest : Bytes} {n : Nat}
    (h : scalar? false b bs = (some n, rest)) : n < 0xD800 ∨ 0xE000 ≤ n := by
  unfold scalar? at h
  split at h
  · obtain rfl : b.toNat = n := Option.some.inj (congrArg Prod.fst h)
    omega
  · split at h
    · cases h
    · rename_i l hl
      -- one case for each range of first bytes
      unfold lead? at hl
      simp only [Bool.false_eq_true, if_false] at hl
      repeat' split at hl
      all_goals cases hl
      all_goals
        obtain ⟨d, bs', hlow, hhigh, hrest⟩ := following_succ_eq_some h
        have hrange := following_range hrest
        dsimp only at hlow hhigh hrange
        omega

theorem not_surrogate_ofNat {n : Nat} (h : n < 0xD800 ∨ 0xE000 ≤ n) :
    (CodePoint.ofNat n).isSurrogate = false := by
  unfold CodePoint.ofNat CodePoint.isSurrogate
  split
  · simp only [Bool.and_eq_false_iff, decide_eq_false_iff_not]
    omega
  · rfl

/-- **What is decoded has no lone surrogates**, unless sequences are repaired with one. -/
theorem not_surrogate_of_decodeWith {repair : Option CodePoint}
    (hrepair : ∀ c, repair = some c → c.isSurrogate = false) {bs : Bytes} {t : Text}
    (h : decodeWith false repair bs = some t) : ∀ c ∈ t, c.isSurrogate = false := by
  fun_induction decodeWith false repair bs generalizing t with
  | case1 =>
    cases h
    exact List.forall_mem_nil _
  | case2 b bs hnone => cases h
  | case3 b bs d hread ih =>
    obtain ⟨u, hu, rfl⟩ := Option.map_eq_some_iff.1 h
    refine List.forall_mem_cons.2 ⟨?_, ih hu⟩
    rcases Option.or_eq_some_iff.1 hread with hread | ⟨-, hread⟩
    · obtain ⟨n, hn, rfl⟩ := Option.map_eq_some_iff.1 hread
      exact not_surrogate_ofNat (not_surrogate_of_scalar? (Prod.ext hn rfl))
    · exact hrepair d hread

theorem not_surrogate_of_decodeLossy {bs : Bytes} {c : CodePoint} (h : c ∈ decodeLossy bs) :
    c.isSurrogate = false := by
  unfold decodeLossy at h
  cases ht : decodeWith false (some (CodePoint.ofNat 0xFFFD)) bs with
  | none =>
    rw [ht] at h
    cases h
  | some t =>
    rw [ht] at h
    refine not_surrogate_of_decodeWith (fun d hd => ?_) ht c h
    cases hd
    rfl

end Utf8

end Issuance
