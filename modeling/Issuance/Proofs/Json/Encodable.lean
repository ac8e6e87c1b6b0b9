import Issuance.Proofs.Json.OneLine

/-!
# Issuance.Proofs.Json.Encodable

**Which values have a canonical form in bytes.** A value mentions a text if the text is a string or a
key in it, at whatever depth. Whatever is mentioned is written, and the writer adds nothing to it but
visible ASCII. So a value has a canonical form in UTF-8 unless it mentions a text with a lone
surrogate (`canonicalBytes?_eq_none_iff`).
-/

namespace Issuance

namespace Json

/-- A text is mentioned in a value: as a string or as a key, at whatever depth. -/
inductive Mentions (t : Text) : Json → Prop
  | str : Mentions t (.str t)
  | item {items : List Json} {v : Json} : v ∈ items → Mentions t v → Mentions t (.arr items)
  | key {members : List (Text × Json)} {v : Json} : (t, v) ∈ members → Mentions t (.obj members)
  | value {members : List (Text × Json)} {m : Text × Json} : m ∈ members → Mentions t m.2 →
    Mentions t (.obj members)

theorem mentions_append {t : Text} {ms ns : List (Text × Json)}
    (h : Mentions t (.obj (ms ++ ns))) : Mentions t (.obj ms) ∨ Mentions t (.obj ns) := by
  cases h with
  | key hm => exact (List.mem_append.1 hm).imp .key .key
  | value hm ht => exact (List.mem_append.1 hm).imp (.value · ht) (.value · ht)

/-- The canonical text of a value has no lone surrogates exactly if no text in the value has any. -/
theorem isScalar_canonical_iff {v : Json} :
    (canonical v).IsScalar ↔ ∀ t, Mentions t v → t.IsScalar := by
  induction v with
  | null => exact iff_of_true (Text.isScalar_of_any (by decide)) nofun
  | bool b =>
    refine iff_of_true (Text.isScalar_of_any ?_) nofun
    cases b <;> decide
  | int i => exact iff_of_true (Text.isScalar_ofInt i) nofun
  | float x => exact iff_of_true (fun c hc => (mem_float hc).isSurrogate) nofun
  | str s =>
    refine ⟨fun h t ht => ?_, fun h => isScalar_writeString (h s .str) false⟩
    cases ht
    exact isScalar_of_writeString h
  | arr items ih =>
    constructor
    · intro h t ht
      cases ht with
      | @item _ v hv ht => exact (ih v hv).1 (fun c hc => h c (mem_write_arr_of_mem hv hc)) t ht
    · intro h c hc
      rcases mem_write_arr hc with hc | ⟨v, hv, hc⟩
      · exact hc.isSurrogate
      · exact (ih v hv).2 (fun t ht => h t (.item hv ht)) c hc
  | obj members ih =>
    constructor
    · intro h t ht
      cases ht with
      | key hm =>
        refine isScalar_of_writeString fun c hc => h c (mem_write_obj_of_mem hm ?_)
        exact List.mem_append_left _ (List.mem_append_left _ hc)
      | value hm ht => exact (ih _ hm).1 (isScalar_of_write_obj h hm) t ht
    · intro h
      exact isScalar_write_obj fun m hm =>
        ⟨h m.1 (.key hm), (ih m hm).2 fun t ht => h t (.value hm ht)⟩

/-- **A value has no canonical form in bytes exactly if it mentions a text with a lone surrogate.** -/
theorem canonicalBytes?_eq_none_iff {v : Json} :
    canonicalBytes? v = none ↔ ∃ t, Mentions t v ∧ ¬ t.IsScalar := by
  constructor
  · intro h
    by_contra hnone
    have hscalar : (canonical v).IsScalar := isScalar_canonical_iff.2 fun t ht =>
      Classical.byContradiction fun hlone => hnone ⟨t, ht, hlone⟩
    unfold canonicalBytes? at h
    rw [Utf8.encode?_of_isScalar hscalar] at h
    cases h
  · rintro ⟨t, ht, hlone⟩
    rw [Option.eq_none_iff_forall_ne_some]
    intro bs hbs
    exact hlone (isScalar_canonical_iff.1 (Utf8.isScalar_of_encode? hbs) t ht)

end Json

end Issuance
