import Issuance.Bytes.Basic

/-!
# Issuance.Proofs.Bytes.Blocks

Rows of bytes in blocks, and the bytewise exclusive or, which undoes itself under a key that is
long enough. A row that goes on after a full block has that block as its first
(`blocks_append`), so inductions on the blocks of a row go along the row.
-/

namespace Issuance

namespace Bytes

/-! ### Exclusive or -/

theorem length_xor (a b : Bytes) : (xor a b).length = min a.length b.length :=
  List.length_zipWith

/-- The exclusive or under one key, done twice, gives a row back that the key covers. -/
theorem xor_xor_cancel {a key : Bytes} (h : a.length ≤ key.length) : xor (xor a key) key = a := by
  induction a generalizing key with
  | nil => rfl
  | cons b a ih =>
    cases key with
    | nil => simp at h
    | cons k key =>
      have hle : a.length ≤ key.length := by simpa using h
      show (b ^^^ k ^^^ k) :: xor (xor a key) key = b :: a
      rw [ih hle, UInt8.xor_assoc, UInt8.xor_self, UInt8.xor_zero]

/-! ### Blocks -/

@[simp] theorem blocks_nil (size : Nat) : blocks size [] = [] := by
  unfold blocks
  split <;> rfl

theorem blocks_of_ne_nil {size : Nat} (hs : 0 < size) {bs : Bytes} (h : bs ≠ []) :
    blocks size bs = bs.take size :: blocks size (bs.drop size) := by
  cases bs with
  | nil => exact absurd rfl h
  | cons b rest =>
    conv => lhs; unfold blocks
    rw [if_neg (Nat.ne_of_gt hs)]

/-- A full block at the beginning of a row, or a last block on its own, is its first block. -/
theorem blocks_append {size : Nat} (hs : 0 < size) {block rest : Bytes} (h : block ≠ [])
    (hfull : block.length = size ∨ block.length ≤ size ∧ rest = []) :
    blocks size (block ++ rest) = block :: blocks size rest := by
  rw [blocks_of_ne_nil hs (by simp [h])]
  rcases hfull with hlen | ⟨hle, rfl⟩
  · subst hlen
    rw [List.take_left, List.drop_left]
  · rw [List.append_nil, List.take_of_length_le hle, List.drop_eq_nil_of_le hle]

/-- A row of whole blocks falls into as many of them as fit. -/
theorem blocks_whole {size : Nat} (hs : 0 < size) (count : Nat) {bs : Bytes}
    (h : bs.length = size * count) :
    (blocks size bs).length = count ∧ ∀ block ∈ blocks size bs, block.length = size := by
  induction count generalizing bs with
  | zero =>
    have hnil : bs = [] := List.length_eq_zero_iff.1 (by simpa using h)
    subst hnil
    simp
  | succ count ih =>
    have hlen : bs.length = size * count + size := by rw [h, Nat.mul_succ]
    have hne : bs ≠ [] := by
      intro hnil
      subst hnil
      rw [List.length_nil] at hlen
      omega
    have hrest : (bs.drop size).length = size * count := by
      rw [List.length_drop, hlen]
      omega
    obtain ⟨hcount, hsizes⟩ := ih hrest
    rw [blocks_of_ne_nil hs hne]
    refine ⟨by rw [List.length_cons, hcount], ?_⟩
    intro block hblock
    rcases List.mem_cons.1 hblock with rfl | hblock
    · rw [List.length_take, hlen]
      omega
    · exact hsizes block hblock

theorem length_flatten_of_all {size : Nat} {rows : List Bytes}
    (h : ∀ row ∈ rows, row.length = size) : rows.flatten.length = size * rows.length := by
  induction rows with
  | nil => rfl
  | cons row rows ih =>
    rw [List.flatten_cons, List.length_append, h row List.mem_cons_self,
      ih fun r hr => h r (List.mem_cons_of_mem row hr), List.length_cons, Nat.mul_succ,
      Nat.add_comm]

end Bytes

end Issuance
