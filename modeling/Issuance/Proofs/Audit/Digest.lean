import Issuance.Audit.Trail
import Issuance.Proofs.Entries
import Issuance.Proofs.Json.Writer

/-!
# Issuance.Proofs.Audit.Digest

**The hash that an event leaves behind.** A digest has 32 bytes whatever is hashed, so the hash of an
event is 64 small hexadecimal digits (`isDigest_digest`). On a line of its own it is read back as it
was left (`lastHash_line`).
-/

namespace Issuance

/-! ### The size of a digest -/

namespace Keccak

theorem size_round (a : Lanes) (constant : UInt64) : (round a constant).size = 25 := by
  unfold round build
  simp

theorem size_rounds (constants : List UInt64) (a : Lanes) (h : a.size = 25) :
    (constants.foldl round a).size = 25 := by
  induction constants generalizing a with
  | nil => exact h
  | cons constant constants ih =>
    rw [List.foldl_cons]
    exact ih (round a constant) (size_round a constant)

theorem size_permute (a : Lanes) (h : a.size = 25) : (permute a).size = 25 :=
  size_rounds _ a h

theorem size_absorb (a : Lanes) (block : Bytes) : (absorb a block).size = 25 :=
  size_permute _ (by simp [build])

theorem size_absorbs (rows : List Bytes) (a : Lanes) (h : a.size = 25) :
    (rows.foldl absorb a).size = 25 := by
  induction rows generalizing a with
  | nil => exact h
  | cons row rows ih =>
    rw [List.foldl_cons]
    exact ih (absorb a row) (size_absorb a row)

end Keccak

namespace Sha3

theorem size_absorbed (mark : UInt8) (message : Bytes) : (absorbed mark message).size = 25 :=
  Keccak.size_absorbs _ _ Array.size_replicate

theorem length_flatMap_lanes (row : List UInt64) :
    (row.flatMap fun l => (Bytes.ofNat 8 l.toNat).reverse).length = 8 * row.length := by
  induction row with
  | nil => rfl
  | cons l row ih =>
    rw [List.flatMap_cons, List.length_append, ih, List.length_reverse, Bytes.length_ofNat,
      List.length_cons]
    omega

theorem length_output {lanes : Nat} {a : Keccak.Lanes} (h : lanes ≤ a.size) :
    (output lanes a).length = 8 * lanes := by
  unfold output
  rw [length_flatMap_lanes, List.length_take, Array.length_toList]
  omega

theorem length_digest256 (message : Bytes) : (digest256 message).length = 32 :=
  length_output (by rw [size_absorbed]; decide)

end Sha3

namespace Audit

/-! ### The hash that is left behind -/

/-- The hash of an event: 64 small hexadecimal digits. -/
def IsDigest (t : Text) : Prop := ∃ bs : Bytes, bs.length = 32 ∧ t = Hex.encode bs

theorem isDigest_digest (bs : Bytes) : IsDigest (digest bs) :=
  ⟨Sha3.digest256 bs, Sha3.length_digest256 bs, rfl⟩

theorem isDigest_genesis : IsDigest genesis := ⟨List.replicate 32 0, by decide, by decide⟩

theorem IsDigest.forall_mem {t : Text} (h : IsDigest t) {p : CodePoint → Bool}
    (hp : ∀ n < 16, p (CodePoint.ofHexDigit n) = true) : ∀ c ∈ t, p c = true := by
  obtain ⟨bs, -, rfl⟩ := h
  exact Hex.forall_mem_encode hp

theorem IsDigest.decode {t : Text} (h : IsDigest t) : (Hex.decode? t).isSome := by
  obtain ⟨bs, -, rfl⟩ := h
  rw [Hex.decode?_encode]
  rfl

theorem IsDigest.isHash {t : Text} (h : IsDigest t) : isHash t = true := by
  obtain ⟨bs, hbs, rfl⟩ := h
  unfold Audit.isHash
  rw [Hex.length_encode, hbs, Hex.decode?_encode]
  rfl

theorem IsDigest.ne_nil {t : Text} (h : IsDigest t) : t ≠ [] := by
  rintro rfl
  cases h.isHash

theorem IsDigest.map_toLowerAscii {t : Text} (h : IsDigest t) :
    t.map CodePoint.toLowerAscii = t := by
  refine (List.map_congr_left fun c hc => ?_).trans (List.map_id t)
  simpa using h.forall_mem (p := fun c => c.toLowerAscii = c) (by decide) c hc

/-- What `append` leaves as the last hash is its text, on a line of its own. -/
theorem decode?_line {t : Text} (h : IsDigest t) :
    ∃ u, Utf8.decode? (Bytes.ofAscii t ++ [0x0A]) = some u ∧ u.unifyLineBreaks.trim = t := by
  have hblank : ∀ c ∈ t, c.isBlank = false := by
    intro c hc
    simpa using h.forall_mem (p := fun c => !c.isBlank) (by decide) c hc
  have hbytes : Bytes.ofAscii t ++ [0x0A] =
      Bytes.ofAscii (t ++ [CodePoint.ofNat 0x0A]) := by
    unfold Bytes.ofAscii
    rw [List.map_append]
    rfl
  have hascii : Text.isAscii (t ++ [CodePoint.ofNat 0x0A]) = true := by
    refine Text.isAscii_iff.2 fun c hc => ?_
    rcases List.mem_append.1 hc with hc | hc
    · exact h.forall_mem (by decide) c hc
    · rw [List.mem_singleton.1 hc]
      decide
  have hreturn : ∀ c ∈ t ++ [CodePoint.ofNat 0x0A], c.value ≠ 0x0D := by
    intro c hc
    rcases List.mem_append.1 hc with hc | hc
    · simpa using h.forall_mem (p := fun c => c.value ≠ 0x0D) (by decide) c hc
    · rw [List.mem_singleton.1 hc]
      decide
  refine ⟨t ++ [CodePoint.ofNat 0x0A], ?_, ?_⟩
  · rw [hbytes, Utf8.decode?_ascii hascii]
  · rw [Text.unifyLineBreaks_of_none hreturn, Text.trim_concat hblank (by decide)]

/-- The last hash is read back as it was left. -/
theorem lastHash_line {t : Text} (h : IsDigest t) :
    Trail.lastHash (some (Bytes.ofAscii t ++ [0x0A])) = .ok t := by
  obtain ⟨u, hdecode, htrim⟩ := decode?_line h
  unfold Trail.lastHash
  dsimp only
  rw [hdecode]
  dsimp only
  rw [htrim, h.isHash, h.map_toLowerAscii, if_neg (by simpa using h.ne_nil), if_pos rfl]

end Audit

end Issuance
