import Issuance.Json.Writer
import Issuance.Proofs.Bytes.Hex
import Issuance.Proofs.Text.Decimal
import Issuance.Proofs.Text.Pieces
import Issuance.Proofs.Text.Utf8

/-!
# Issuance.Proofs.Json.Writer

What a written text is made of. The writer adds only visible ASCII to what it is given, and of that
it writes no controls as they are (`mem_writeString`, `mem_write_obj`). So a text without lone
surrogates is written without any, and so is an object whose keys and values are
(`isScalar_write_obj`).
-/

namespace Issuance

/-- One of the ASCII characters from the space to the tilde. -/
def CodePoint.IsVisibleAscii (c : CodePoint) : Prop := 0x20 ≤ c.value ∧ c.value < 0x7F

instance (c : CodePoint) : Decidable c.IsVisibleAscii := inferInstanceAs (Decidable (_ ∧ _))

theorem CodePoint.IsVisibleAscii.isSurrogate {c : CodePoint} (h : c.IsVisibleAscii) :
    c.isSurrogate = false := by
  obtain ⟨hlow, hhigh⟩ := h
  simp only [CodePoint.isSurrogate, Bool.and_eq_false_iff, decide_eq_false_iff_not]
  omega

theorem CodePoint.isVisibleAscii_of_isDigit {c : CodePoint} (h : c.isDigit = true) :
    c.IsVisibleAscii := by
  simp only [CodePoint.isDigit, Bool.and_eq_true, decide_eq_true_eq] at h
  exact ⟨by omega, by omega⟩

namespace Text

theorem mem_ofInt {i : Int} {c : CodePoint} (h : c ∈ ofInt i) : c.IsVisibleAscii := by
  cases i with
  | ofNat n => exact CodePoint.isVisibleAscii_of_isDigit (areDigits_ofNat n c h)
  | negSucc n =>
    rcases List.mem_cons.1 h with rfl | h
    · decide
    · exact CodePoint.isVisibleAscii_of_isDigit (areDigits_ofNat (n + 1) c h)

theorem isScalar_ofInt (i : Int) : IsScalar (ofInt i) := fun _ hc => (mem_ofInt hc).isSurrogate

end Text

namespace Json

/-! ### What is written inside a string -/

theorem mem_unitEscape {n : Nat} {c : CodePoint} (h : c ∈ unitEscape n) : c.IsVisibleAscii := by
  have hdigit : ∀ d < 16, (CodePoint.ofHexDigit d).IsVisibleAscii := by decide
  have hfixed : ∀ width m, c ∈ Hex.fixed width m → c.IsVisibleAscii := by
    intro width
    induction width with
    | zero => exact fun m hc => nomatch hc
    | succ width ih =>
      intro m hc
      rcases List.mem_append.1 hc with hc | hc
      · exact ih (m / 16) hc
      · rw [List.mem_singleton.1 hc]
        exact hdigit _ (Nat.mod_lt m (by decide))
  have hmark : ∀ d ∈ Text.ofString "\\u", d.IsVisibleAscii := by decide
  rcases List.mem_append.1 h with hc | hc
  · exact hmark c hc
  · exact hfixed 4 n hc

theorem mem_shortEscape? {d : CodePoint} {e : Text} (h : shortEscape? d = some e) :
    ∀ c ∈ e, c.IsVisibleAscii := by
  unfold shortEscape? at h
  repeat' split at h
  all_goals cases h
  all_goals decide

/-- What is written for a code point is visible ASCII, or the code point itself, which then is no
control. -/
theorem mem_writePoint {asciiOnly : Bool} {c d : CodePoint} (h : c ∈ writePoint asciiOnly d) :
    c.IsVisibleAscii ∨ c = d ∧ 0x20 ≤ d.value := by
  unfold writePoint at h
  split at h
  · rename_i e he
    exact Or.inl (mem_shortEscape? he c h)
  · split at h
    · exact Or.inl (mem_unitEscape h)
    · rename_i hcontrol
      split at h
      · exact Or.inr ⟨List.mem_singleton.1 h, Nat.le_of_not_lt hcontrol⟩
      · split at h
        · exact Or.inl (mem_unitEscape h)
        · rcases List.mem_append.1 h with h | h
          · exact Or.inl (mem_unitEscape h)
          · exact Or.inl (mem_unitEscape h)

theorem mem_writeString {asciiOnly : Bool} {t : Text} {c : CodePoint}
    (h : c ∈ writeString asciiOnly t) : c.IsVisibleAscii ∨ c ∈ t ∧ 0x20 ≤ c.value := by
  have hquote : ∀ d ∈ Text.ofString "\"", d.IsVisibleAscii := by decide
  rcases List.mem_append.1 h with h | h
  · rcases List.mem_append.1 h with h | h
    · exact Or.inl (hquote c h)
    · obtain ⟨d, hd, hc⟩ := List.mem_flatMap.1 h
      rcases mem_writePoint hc with hc | ⟨rfl, hc⟩
      · exact Or.inl hc
      · exact Or.inr ⟨hd, hc⟩
  · exact Or.inl (hquote c h)

theorem isScalar_writeString {t : Text} (h : t.IsScalar) (asciiOnly : Bool) :
    (writeString asciiOnly t).IsScalar := by
  intro c hc
  rcases mem_writeString hc with hc | ⟨hc, -⟩
  · exact hc.isSurrogate
  · exact h c hc

/-! ### What is written for a list or an object -/

/-- A member with its key beside its text. -/
def writtenMember (style : Style) (m : Text × Json) : Text × Text :=
  (m.1, writeString style.asciiOnly m.1 ++ ":" ++ write style m.2)

theorem writeItems_eq (style : Style) (items : List Json) :
    writeItems style items = items.map (write style) := by
  induction items with
  | nil => rw [writeItems, List.map_nil]
  | cons v vs ih => rw [writeItems, List.map_cons, ih]

theorem writeMembers_eq (style : Style) (members : List (Text × Json)) :
    writeMembers style members = members.map (writtenMember style) := by
  induction members with
  | nil => rw [writeMembers, List.map_nil]
  | cons m ms ih =>
    rw [writeMembers, List.map_cons, ih]
    rfl

theorem mem_arrange {style : Style} {written : List (Text × Text)} {p : Text × Text}
    (h : p ∈ style.arrange written) : p ∈ written := by
  unfold Style.arrange at h
  split at h
  · exact List.mem_mergeSort.1 h
  · exact h

theorem mem_joined_comma {ts : List Text} {c : CodePoint} (h : c ∈ Text.joined "," ts) :
    c.IsVisibleAscii ∨ ∃ t ∈ ts, c ∈ t := by
  have hcomma : ∀ d ∈ Text.ofString ",", d.IsVisibleAscii := by decide
  exact (Text.mem_joined h).imp_left (hcomma c)

theorem mem_write_arr {style : Style} {items : List Json} {c : CodePoint}
    (h : c ∈ write style (.arr items)) : c.IsVisibleAscii ∨ ∃ v ∈ items, c ∈ write style v := by
  have hopen : ∀ d ∈ Text.ofString "[", d.IsVisibleAscii := by decide
  have hclose : ∀ d ∈ Text.ofString "]", d.IsVisibleAscii := by decide
  rw [write, writeItems_eq] at h
  rcases List.mem_append.1 h with h | h
  · rcases List.mem_append.1 h with h | h
    · exact Or.inl (hopen c h)
    · rcases mem_joined_comma h with h | ⟨t, ht, hc⟩
      · exact Or.inl h
      · obtain ⟨v, hv, rfl⟩ := List.mem_map.1 ht
        exact Or.inr ⟨v, hv, hc⟩
  · exact Or.inl (hclose c h)

theorem mem_write_obj {style : Style} {members : List (Text × Json)} {c : CodePoint}
    (h : c ∈ write style (.obj members)) : c.IsVisibleAscii ∨
      ∃ m ∈ members, c ∈ m.1 ∧ 0x20 ≤ c.value ∨ c ∈ write style m.2 := by
  have hopen : ∀ d ∈ Text.ofString "\x7b", d.IsVisibleAscii := by decide
  have hclose : ∀ d ∈ Text.ofString "\x7d", d.IsVisibleAscii := by decide
  have hcolon : ∀ d ∈ Text.ofString ":", d.IsVisibleAscii := by decide
  rw [write] at h
  rcases List.mem_append.1 h with h | h
  · rcases List.mem_append.1 h with h | h
    · exact Or.inl (hopen c h)
    · rcases mem_joined_comma h with h | ⟨t, ht, hc⟩
      · exact Or.inl h
      · -- in whatever order, these are the written members
        obtain ⟨p, hp, rfl⟩ := List.mem_map.1 ht
        have hp := mem_arrange hp
        rw [writeMembers_eq] at hp
        obtain ⟨m, hm, rfl⟩ := List.mem_map.1 hp
        rcases List.mem_append.1 hc with hc | hc
        · rcases List.mem_append.1 hc with hc | hc
          · exact (mem_writeString hc).imp id fun hc => ⟨m, hm, Or.inl hc⟩
          · exact Or.inl (hcolon c hc)
        · exact Or.inr ⟨m, hm, Or.inr hc⟩
  · exact Or.inl (hclose c h)

/-- An object is written without lone surrogates where its keys and values are. -/
theorem isScalar_write_obj {style : Style} {members : List (Text × Json)}
    (h : ∀ m ∈ members, m.1.IsScalar ∧ (write style m.2).IsScalar) :
    (write style (.obj members)).IsScalar := by
  intro c hc
  rcases mem_write_obj hc with hc | ⟨m, hm, ⟨hc, -⟩ | hc⟩
  · exact hc.isSurrogate
  · exact (h m hm).1 c hc
  · exact (h m hm).2 c hc

/-! ### All of it is written -/

/-- A lone surrogate inside a string is written as it is. -/
theorem mem_writePoint_of_isSurrogate {c : CodePoint} (h : c.isSurrogate = true) :
    c ∈ writePoint false c := by
  have hhigh : 0xD800 ≤ c.value := by
    simp only [CodePoint.isSurrogate, Bool.and_eq_true, decide_eq_true_eq] at h
    exact h.1
  have hne : ∀ d : CodePoint, d.value < 0x80 → c ≠ d := by
    rintro d hd rfl
    omega
  have hplain : shortEscape? c = none := by
    unfold shortEscape?
    rw [if_neg (hne _ (by decide)), if_neg (hne _ (by decide)), if_neg (by omega),
      if_neg (by omega), if_neg (by omega), if_neg (by omega), if_neg (by omega)]
  unfold writePoint
  rw [hplain]
  dsimp only
  rw [if_neg (by omega), Bool.not_false, Bool.true_or, if_pos rfl]
  exact List.mem_singleton_self c

/-- So a string that is written without lone surrogates has none. -/
theorem isScalar_of_writeString {t : Text} (h : (writeString false t).IsScalar) :
    t.IsScalar := by
  intro c hc
  cases hs : c.isSurrogate with
  | false => rfl
  | true =>
    have hwritten : c ∈ writeString false t :=
      List.mem_append_left _ (List.mem_append_right _
        (List.mem_flatMap.2 ⟨c, hc, mem_writePoint_of_isSurrogate hs⟩))
    rw [h c hwritten] at hs
    cases hs

theorem mem_arrange_of_mem {style : Style} {written : List (Text × Text)} {p : Text × Text}
    (h : p ∈ written) : p ∈ style.arrange written := by
  unfold Style.arrange
  split
  · exact List.mem_mergeSort.2 h
  · exact h

theorem mem_write_arr_of_mem {style : Style} {items : List Json} {v : Json} (hv : v ∈ items)
    {c : CodePoint} (hc : c ∈ write style v) : c ∈ write style (.arr items) := by
  rw [write, writeItems_eq]
  exact List.mem_append_left _ (List.mem_append_right _
    (Text.mem_joined_of_mem (List.mem_map_of_mem hv) hc))

theorem mem_write_obj_of_mem {style : Style} {members : List (Text × Json)} {m : Text × Json}
    (hm : m ∈ members) {c : CodePoint} (hc : c ∈ (writtenMember style m).2) :
    c ∈ write style (.obj members) := by
  have hmember : writtenMember style m ∈ style.arrange (writeMembers style members) := by
    rw [writeMembers_eq]
    exact mem_arrange_of_mem (List.mem_map_of_mem hm)
  rw [write]
  exact List.mem_append_left _ (List.mem_append_right _
    (Text.mem_joined_of_mem (List.mem_map_of_mem hmember) hc))

/-- The values in an object that is written without lone surrogates are written without any. -/
theorem isScalar_of_write_obj {style : Style} {members : List (Text × Json)}
    (h : (write style (.obj members)).IsScalar) {m : Text × Json} (hm : m ∈ members) :
    (write style m.2).IsScalar :=
  fun c hc => h c (mem_write_obj_of_mem hm (List.mem_append_right _ hc))

/-! ### The canonical form in bytes -/

end Json

end Issuance
