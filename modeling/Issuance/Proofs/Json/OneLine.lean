import Issuance.Proofs.Json.Layout
import Issuance.Proofs.Json.Sorted

/-!
# Issuance.Proofs.Json.OneLine

**A written value stays on one line.** Controls are escaped inside strings, and the writer adds
none, so no line break of any kind is in the text of a value (`no_control_write`).
-/

namespace Issuance

namespace Json

/-! ### Numbers -/

theorem Numeral.mem_text {n : Numeral} (h : n.WellFormed) {c : CodePoint} (hc : c ∈ n.text) :
    c.IsVisibleAscii := by
  have hmark : ∀ d ∈ (['.', 'e', '-', '+'] : List CodePoint), d.IsVisibleAscii := by decide
  rcases List.mem_append.1 hc with hc | hc
  · exact CodePoint.isVisibleAscii_of_isDigit (h.whole c hc)
  · rcases List.mem_append.1 hc with hc | hc
    · unfold fractionText at hc
      cases hf : n.fraction with
      | none =>
        rw [hf] at hc
        cases hc
      | some ds =>
        rw [hf] at hc
        rcases List.mem_cons.1 hc with rfl | hc
        · exact hmark _ (by simp)
        · exact CodePoint.isVisibleAscii_of_isDigit ((h.fraction ds hf).1 c hc)
    · unfold exponentText at hc
      cases he : n.exponent with
      | none =>
        rw [he] at hc
        cases hc
      | some e =>
        rw [he] at hc
        rcases List.mem_cons.1 hc with rfl | hc
        · exact hmark _ (by simp)
        · rcases List.mem_cons.1 hc with rfl | hc
          · split <;> exact hmark _ (by simp)
          · exact CodePoint.isVisibleAscii_of_isDigit ((h.exponent e he).1 c hc)

theorem mem_float {x : Binary64} {c : CodePoint} (hc : c ∈ x.text numberNames) :
    c.IsVisibleAscii := by
  have hnames : ∀ t ∈ (["NaN", "Infinity", "-Infinity", "-"] : List Text),
      ∀ d ∈ t, d.IsVisibleAscii := by decide
  cases x with
  | nan => exact hnames "NaN" (by simp) c hc
  | infinity negative =>
    cases negative with
    | true => exact hnames "-Infinity" (by simp) c hc
    | false => exact hnames "Infinity" (by simp) c hc
  | finite x =>
    obtain ⟨n, hn, htext, -⟩ := finiteText_eq x
    rw [Binary64.text, htext] at hc
    rcases List.mem_append.1 hc with hc | hc
    · split at hc
      · exact hnames "-" (by simp) c hc
      · cases hc
    · exact n.mem_text hn hc

/-! ### Values -/

/-- **No line break is in the text of a value**, nor any other control. -/
theorem no_control_write {style : Style} {v : Json} {c : CodePoint} (hc : c ∈ write style v) :
    0x20 ≤ c.value := by
  have hwords : ∀ t ∈ (["null", "true", "false"] : List Text), ∀ d ∈ t, d.IsVisibleAscii := by
    decide
  induction v with
  | null => exact (hwords "null" (by simp) c hc).1
  | bool b =>
    cases b with
    | true => exact (hwords "true" (by simp) c hc).1
    | false => exact (hwords "false" (by simp) c hc).1
  | int i => exact (Text.mem_ofInt hc).1
  | float x => exact (mem_float hc).1
  | str t =>
    rcases mem_writeString hc with hc | ⟨-, hc⟩
    · exact hc.1
    · exact hc
  | arr items ih =>
    rcases mem_write_arr hc with hc | ⟨v, hv, hc⟩
    · exact hc.1
    · exact ih v hv hc
  | obj members ih =>
    rcases mem_write_obj hc with hc | ⟨m, hm, ⟨-, hc⟩ | hc⟩
    · exact hc.1
    · exact hc
    · exact ih m hm hc

end Json

end Issuance
