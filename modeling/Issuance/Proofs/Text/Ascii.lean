import Issuance.Bytes.Basic

/-!
# Issuance.Proofs.Text.Ascii

**ASCII text in UTF-8** is its own code points, one byte each. Whatever is made of a byte beyond
ASCII, the three readers agree here.
-/

namespace Issuance

namespace CodePoint

theorem toNat_ofNat_value {c : CodePoint} (h : c.isAscii = true) :
    (UInt8.ofNat c.value).toNat = c.value := by
  have hlt : c.value < 0x80 := of_decide_eq_true h
  rw [UInt8.toNat_ofNat']
  exact Nat.mod_eq_of_lt (by omega)

end CodePoint

namespace Text

theorem isAscii_iff {t : Text} : t.isAscii = true ↔ ∀ c ∈ t, c.isAscii = true := List.all_eq_true

end Text

namespace Utf8

theorem scalar?_ascii (surrogates : Bool) {c : CodePoint} (h : c.isAscii = true) (bs : Bytes) :
    scalar? surrogates (UInt8.ofNat c.value) bs = (some c.value, bs) := by
  have hlt : c.value < 0x80 := of_decide_eq_true h
  unfold scalar?
  rw [CodePoint.toNat_ofNat_value h, if_pos hlt]

theorem decodeWith_ascii (surrogates : Bool) (repair : Option CodePoint) {t : Text}
    (h : t.isAscii = true) : decodeWith surrogates repair (Bytes.ofAscii t) = some t := by
  induction t with
  | nil =>
    show decodeWith surrogates repair [] = some []
    rw [decodeWith]
  | cons c t ih =>
    have hc : c.isAscii = true := Text.isAscii_iff.1 h c List.mem_cons_self
    have ht : Text.isAscii t = true :=
      Text.isAscii_iff.2 fun d hd => Text.isAscii_iff.1 h d (List.mem_cons_of_mem c hd)
    show decodeWith surrogates repair (UInt8.ofNat c.value :: Bytes.ofAscii t) = some (c :: t)
    rw [decodeWith, scalar?_ascii surrogates hc]
    show (decodeWith surrogates repair (Bytes.ofAscii t)).map (CodePoint.ofNat c.value :: ·) = _
    rw [ih ht, CodePoint.ofNat_value]
    rfl

theorem decode?_ascii {t : Text} (h : t.isAscii = true) : decode? (Bytes.ofAscii t) = some t :=
  decodeWith_ascii false none h

theorem decodeWide?_ascii {t : Text} (h : t.isAscii = true) :
    decodeWide? (Bytes.ofAscii t) = some t :=
  decodeWith_ascii true none h

end Utf8

namespace Bytes

/-- An ASCII text is the text of its bytes. -/
theorem toAscii_ofAscii {t : Text} (h : t.isAscii = true) : toAscii (ofAscii t) = t := by
  unfold toAscii ofAscii
  rw [List.map_map]
  refine (List.map_congr_left fun c hc => ?_).trans (List.map_id t)
  show CodePoint.ofNat (UInt8.ofNat c.value).toNat = c
  rw [CodePoint.toNat_ofNat_value (Text.isAscii_iff.1 h c hc), CodePoint.ofNat_value]

theorem all_lt_ofAscii {t : Text} (h : t.isAscii = true) :
    (ofAscii t).all (· < 0x80) = true := by
  rw [List.all_eq_true]
  intro b hb
  obtain ⟨c, hc, rfl⟩ := List.mem_map.1 hb
  have hascii := Text.isAscii_iff.1 h c hc
  have hlt : c.value < 0x80 := of_decide_eq_true hascii
  rw [decide_eq_true_eq, UInt8.lt_iff_toNat_lt, CodePoint.toNat_ofNat_value hascii]
  exact hlt

theorem ofAscii?_of_isAscii {t : Text} (h : t.isAscii = true) : ofAscii? t = some (ofAscii t) := by
  unfold ofAscii?
  rw [if_pos h]

end Bytes

end Issuance
