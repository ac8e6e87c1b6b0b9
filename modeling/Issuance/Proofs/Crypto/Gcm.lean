import Issuance.Crypto.Gcm
import Issuance.Proofs.Bytes.Blocks

/-!
# Issuance.Proofs.Crypto.Gcm

**Decryption undoes encryption.** The key stream covers every block (`length_encipher`): a key of
32 bytes has round keys of sixteen bytes each, and the last of them sets the length of an
enciphered block. So the stream, laid over a text twice, gives the text back, and the tag that
`encrypt` computes is the one that `decrypt?` asks for.
-/

namespace Issuance

namespace Aes

/-! ### The round keys -/

/-- A schedule of words: eight of them at a time, of four bytes each. -/
def AreWords (words : List Bytes) : Prop := words.length = 8 ∧ ∀ w ∈ words, w.length = 4

theorem length_go {carry : Bytes} {words : List Bytes} (i : Nat) (hc : carry.length = 4)
    (h : ∀ w ∈ words, w.length = 4) :
    (nextWords.go i carry words).length = words.length ∧
      ∀ w ∈ nextWords.go i carry words, w.length = 4 := by
  induction words generalizing i carry with
  | nil => exact ⟨rfl, fun w hw => by cases hw⟩
  | cons w words ih =>
    have hcarry : (if i = 4 then carry.map substitute else carry).length = 4 := by
      split
      · rw [List.length_map, hc]
      · exact hc
    have hnext : (Bytes.xor w (if i = 4 then carry.map substitute else carry)).length = 4 := by
      rw [Bytes.length_xor, h w List.mem_cons_self, hcarry]
      rfl
    obtain ⟨hlen, hall⟩ := ih (i + 1) hnext fun v hv => h v (List.mem_cons_of_mem w hv)
    unfold nextWords.go
    refine ⟨by rw [List.length_cons, hlen, List.length_cons], ?_⟩
    intro v hv
    rcases List.mem_cons.1 hv with rfl | hv
    · exact hnext
    · exact hall v hv

theorem AreWords.nextWords {words : List Bytes} (h : AreWords words) (constant : UInt8) :
    AreWords (nextWords constant words) := by
  have hne : words ≠ [] := by
    rintro rfl
    exact absurd h.1 (by decide)
  have hlast : (words.getLastD []).length = 4 := by
    rw [List.getLastD_eq_getLast?, List.getLast?_eq_some_getLast hne]
    exact h.2 _ (List.getLast_mem hne)
  unfold Aes.nextWords
  dsimp only
  -- the last word is rotated and substituted, and its first byte takes the constant
  generalize words.getLastD [] = last at hlast
  obtain ⟨a, rest, rfl⟩ := List.exists_cons_of_length_pos (by omega : 0 < last.length)
  obtain ⟨b, bs, hbs⟩ := List.exists_cons_of_length_pos
    (by simp : 0 < ((rest ++ [a]).map substitute).length)
  have hfirst : ((b ^^^ constant) :: bs).length = 4 := by
    have hlen := congrArg List.length hbs
    simp only [List.length_map, List.length_append, List.length_cons, List.length_nil]
      at hlen hlast ⊢
    omega
  dsimp only
  rw [hbs]
  obtain ⟨hcount, hall⟩ := length_go 0 hfirst h.2
  exact ⟨hcount.trans h.1, hall⟩

theorem length_expand {words : List Bytes} (h : AreWords words) (steps : Nat) (constant : UInt8) :
    (expand steps constant words).length = 8 * (steps + 1) ∧
      ∀ w ∈ expand steps constant words, w.length = 4 := by
  induction steps generalizing constant words with
  | zero => exact ⟨h.1, h.2⟩
  | succ steps ih =>
    obtain ⟨hlen, hall⟩ := ih (h.nextWords constant) (double constant)
    unfold expand
    refine ⟨by rw [List.length_append, h.1, hlen]; omega, ?_⟩
    intro w hw
    rcases List.mem_append.1 hw with hw | hw
    · exact h.2 w hw
    · exact hall w hw

/-- A key of 32 bytes has fifteen round keys of sixteen bytes each. -/
theorem roundKeys_sizes {key : Bytes} (h : key.length = 32) :
    (roundKeys key).length = 15 ∧ ∀ k ∈ roundKeys key, k.length = 16 := by
  have hwords : AreWords (Bytes.blocks 4 key) := Bytes.blocks_whole (by decide) 8 h
  obtain ⟨hcount, hall⟩ := length_expand hwords 7 1
  have hbytes : (expand 7 1 (Bytes.blocks 4 key)).flatten.length = 16 * 16 := by
    rw [Bytes.length_flatten_of_all hall, hcount]
  obtain ⟨hblocks, hsizes⟩ := Bytes.blocks_whole (by decide) 16 hbytes
  unfold roundKeys
  refine ⟨by rw [List.length_take, hblocks]; rfl, ?_⟩
  intro k hk
  exact hsizes k (List.mem_of_mem_take hk)

/-! ### Enciphered blocks -/

theorem length_shiftRows (state : Bytes) : (shiftRows state).length = 16 := by
  unfold shiftRows
  rw [List.length_map, List.length_range]

theorem length_rounds {keys : List Bytes} (hne : keys ≠ []) (h : ∀ k ∈ keys, k.length = 16)
    (state : Bytes) : (rounds keys state).length = 16 := by
  induction keys generalizing state with
  | nil => exact absurd rfl hne
  | cons key keys ih =>
    cases keys with
    | nil =>
      rw [rounds, Bytes.length_xor, length_shiftRows, h key List.mem_cons_self]
      rfl
    | cons next keys =>
      rw [rounds]
      exact ih (by simp) (fun k hk => h k (List.mem_cons_of_mem key hk)) _

/-- A block enciphered under a key of 32 bytes has sixteen bytes. -/
theorem length_encipher {key : Bytes} (h : key.length = 32) (block : Bytes) :
    (encipher (roundKeys key) block).length = 16 := by
  obtain ⟨hcount, hsizes⟩ := roundKeys_sizes h
  unfold encipher
  match hk : roundKeys key with
  | [] | [_] =>
    rw [hk] at hcount
    exact absurd hcount (by simp)
  | first :: next :: keys =>
    rw [hk] at hsizes
    exact length_rounds (by simp) (fun k hmem => hsizes k (List.mem_cons_of_mem first hmem)) _

end Aes

namespace Gcm

/-- **The stream over a text, laid twice, gives the text back.** -/
theorem stream_stream {keys : List Bytes} (hkeys : ∀ block, (Aes.encipher keys block).length = 16)
    (counter : Nat) (bs : Bytes) :
    stream keys counter (Bytes.blocks 16 (stream keys counter (Bytes.blocks 16 bs))) = bs := by
  -- along the text, a block at a time, for the counter has gone on by then
  induction hn : bs.length using Nat.strongRecOn generalizing bs counter with
  | ind n ih =>
    by_cases hnil : bs = []
    · subst hnil
      rw [Bytes.blocks_nil, stream, Bytes.blocks_nil, stream]
    · have hpos : 0 < bs.length := List.length_pos_iff.2 hnil
      have hkey := hkeys (Bytes.ofNat 16 counter)
      have hlen : (Bytes.xor (bs.take 16) (Aes.encipher keys (Bytes.ofNat 16 counter))).length =
          min 16 bs.length := by
        rw [Bytes.length_xor, List.length_take, hkey]
        omega
      have hne : Bytes.xor (bs.take 16) (Aes.encipher keys (Bytes.ofNat 16 counter)) ≠ [] := by
        intro h
        rw [h, List.length_nil] at hlen
        omega
      have hrest := ih (bs.drop 16).length (by rw [List.length_drop]; omega) (countUp counter)
        (bs.drop 16) rfl
      rw [Bytes.blocks_of_ne_nil (by decide) hnil, stream, Bytes.blocks_append (by decide) hne,
        stream, Bytes.xor_xor_cancel, hrest, List.take_append_drop]
      · rw [List.length_take, hkey]
        omega
      -- the block is whole, or it is the last one and nothing comes after it
      · rw [hlen]
        by_cases hle : bs.length ≤ 16
        · refine Or.inr ⟨by omega, ?_⟩
          rw [List.drop_eq_nil_of_le hle, Bytes.blocks_nil, stream]
        · exact Or.inl (by omega)

/-- **Decryption undoes encryption**, under every key of 32 bytes and every initial value. -/
theorem decrypt?_encrypt {key : Bytes} (h : key.length = 32) (iv additional plainText : Bytes) :
    decrypt? key iv additional (encrypt key iv additional plainText).1
      (encrypt key iv additional plainText).2 = some plainText := by
  unfold decrypt? encrypt setup
  dsimp only
  rw [if_pos rfl, stream_stream (Aes.length_encipher h)]

theorem length_tag {key : Bytes} (h : key.length = 32) (iv additional plainText : Bytes) :
    (encrypt key iv additional plainText).2.length = 16 := by
  unfold encrypt setup
  dsimp only
  unfold tag
  rw [Bytes.length_xor, Bytes.length_ofNat, Aes.length_encipher h]
  rfl

end Gcm

end Issuance
