import Issuance.Form
import Issuance.Proofs.Bytes.Hex
import Issuance.Proofs.Entries
import Issuance.Proofs.Text.Ascii
import Issuance.Proofs.Text.Pieces
import Issuance.Proofs.Text.Utf8
import Mathlib.Data.List.Forall2

/-!
# Issuance.Proofs.Form

**A form that is written is read back**, in whichever of many ways it is written. `Spells` says what
may stand for a name or value: any character may be escaped, with the digits of an escape in either
case, and `encodeText` is one way among others (`spells_encodeText`). Escapes are undone byte by
byte, which gives the UTF-8 of the text (`Spells.unescape`). Names and values have neither `&` nor
`=` once they are written, so the form falls apart where it was joined (`SpellsAll.decode`).
-/

namespace Issuance

namespace Text

/-- A text is cut at the first separator. -/
theorem cut?_append {p : CodePoint → Bool} {t : Text} (h : ∀ c ∈ t, p c = false)
    {separator : CodePoint} (hp : p separator = true) (rest : Text) :
    cut? p (t ++ separator :: rest) = some (t, rest) := by
  induction t with
  | nil => rw [List.nil_append, cut?, if_pos hp]
  | cons c t ih =>
    rw [List.cons_append, cut?, h c List.mem_cons_self, if_neg Bool.false_ne_true,
      ih fun d hd => h d (List.mem_cons_of_mem c hd)]
    rfl

/-- A text is cut into no more than what it is made of. -/
theorem mem_of_cut? {p : CodePoint → Bool} {t before after : Text} {c : CodePoint}
    (h : cut? p t = some (before, after)) (hc : c ∈ before ∨ c ∈ after) : c ∈ t := by
  induction t generalizing before with
  | nil => cases h
  | cons d t ih =>
    rw [cut?] at h
    split at h
    · cases h
      exact List.mem_cons_of_mem d (hc.resolve_left List.not_mem_nil)
    · obtain ⟨⟨before', after'⟩, hcut, heq⟩ := Option.map_eq_some_iff.1 h
      cases heq
      rcases hc with hc | hc
      · rcases List.mem_cons.1 hc with rfl | hc
        · exact List.mem_cons_self
        · exact List.mem_cons_of_mem d (ih hcut (Or.inl hc))
      · exact List.mem_cons_of_mem d (ih hcut (Or.inr hc))

end Text

namespace Form

/-! ### Ways of writing -/

/-- The characters that mean something in a form. -/
def signs : Text := "%+&="

/-- Bytes as escapes, with the digits in either case. -/
inductive Escapes : Text → Bytes → Prop
  | nil : Escapes [] []
  | cons {high low : CodePoint} {b : UInt8} {w : Text} {bs : Bytes}
      (hhigh : high.hexDigit? = some (b.toNat / 16)) (hlow : low.hexDigit? = some (b.toNat % 16))
      (rest : Escapes w bs) : Escapes ('%' :: high :: low :: w) (b :: bs)

/-- What may stand for a name or value in a form. A space is a `+`, and the escapes of its UTF-8 may
stand for any character. A character in ASCII that is not one of the signs may stand for itself. -/
inductive Spells : Text → Text → Prop
  | nil : Spells [] []
  | space {w t : Text} (rest : Spells w t) : Spells ('+' :: w) (' ' :: t)
  | plain {c : CodePoint} {w t : Text} (ascii : c.isAscii = true) (unsigned : c ∉ signs)
      (rest : Spells w t) : Spells (c :: w) (c :: t)
  | escaped {c : CodePoint} {e w t : Text} (escapes : Escapes e (Utf8.encodePoint c))
      (rest : Spells w t) : Spells (e ++ w) (c :: t)

/-- A name and a value that stand for a parameter. -/
def SpellsParameter (w : Text) (p : Text × Text) : Prop :=
  ∃ name value, Spells name p.1 ∧ Spells value p.2 ∧ w = name ++ "=" ++ value

/-- A form that stands for parameters in order. -/
def SpellsAll (w : Text) (parameters : List (Text × Text)) : Prop :=
  ∃ ws, List.Forall₂ SpellsParameter ws parameters ∧ w = Text.joined "&" ws

/-! ### Names and values -/

/-- A character within a name or value, as it is written. -/
def IsInner (c : CodePoint) : Prop := c.isAscii = true ∧ c ≠ '&' ∧ c ≠ '='

instance (c : CodePoint) : Decidable (IsInner c) := inferInstanceAs (Decidable (_ ∧ _))

theorem isInner_of_digit {c : CodePoint} (h : c.hexDigit?.isSome) : IsInner c := by
  refine ⟨decide_eq_true ?_, ?_, ?_⟩
  · rw [Hex.isSome_hexDigit?_iff] at h
    omega
  · rintro rfl
    exact absurd h (by decide)
  · rintro rfl
    exact absurd h (by decide)

theorem Escapes.isInner {w : Text} {bs : Bytes} (h : Escapes w bs) : ∀ c ∈ w, IsInner c := by
  induction h with
  | nil => exact List.forall_mem_nil _
  | cons hhigh hlow _ ih =>
    have hdigit : ∀ {c : CodePoint} {n : Nat}, c.hexDigit? = some n → IsInner c := fun h =>
      isInner_of_digit (Option.isSome_of_eq_some h)
    exact List.forall_mem_cons.2 ⟨by decide, List.forall_mem_cons.2 ⟨hdigit hhigh,
      List.forall_mem_cons.2 ⟨hdigit hlow, ih⟩⟩⟩

theorem Spells.isInner {w t : Text} (h : Spells w t) : ∀ c ∈ w, IsInner c := by
  induction h with
  | nil => exact List.forall_mem_nil _
  | space _ ih => exact List.forall_mem_cons.2 ⟨by decide, ih⟩
  | plain ascii unsigned _ ih =>
    refine List.forall_mem_cons.2 ⟨⟨ascii, ?_, ?_⟩, ih⟩
    · rintro rfl
      exact unsigned (by decide)
    · rintro rfl
      exact unsigned (by decide)
  | escaped escapes _ ih => exact List.forall_mem_append.2 ⟨escapes.isInner, ih⟩

theorem Spells.isAscii {w t : Text} (h : Spells w t) : Text.isAscii w = true :=
  Text.isAscii_iff.2 fun c hc => (h.isInner c hc).1

/-- A space in place of a `+`, as a form is read. -/
def spaced (c : CodePoint) : CodePoint := if c = '+' then ' ' else c

theorem decodeText_eq (t : Text) : decodeText t = decodeRuns [] (t.map spaced) := rfl

theorem isAscii_spaced {c : CodePoint} (h : c.isAscii = true) : (spaced c).isAscii = true := by
  unfold spaced
  split
  · decide
  · exact h

/-- An escape has no `+` in it that would be read as a space. -/
theorem spaced_of_digit {c : CodePoint} (h : c.hexDigit?.isSome) : spaced c = c := by
  refine if_neg ?_
  rintro rfl
  exact absurd h (by decide)

theorem unescape_cons {c : CodePoint} (h : c ≠ '%') (t : Text) :
    unescape (c :: t) = UInt8.ofNat c.value :: unescape t := by
  match t with
  | [] => rfl
  | [d] => rfl
  | d :: e :: t => rw [unescape, if_neg h]

/-- Escapes are undone byte by byte. -/
theorem Escapes.unescape {w : Text} {bs : Bytes} (h : Escapes w bs) (t : Text) :
    unescape (w.map spaced ++ t) = bs ++ unescape t := by
  induction h with
  | nil => rfl
  | @cons high low b w bs hhigh hlow _ ih =>
    have hbyte : b.toNat / 16 * 16 + b.toNat % 16 = b.toNat := by omega
    have hpercent : spaced '%' = '%' := rfl
    rw [List.map_cons, List.map_cons, List.map_cons, hpercent,
      spaced_of_digit (Option.isSome_of_eq_some hhigh),
      spaced_of_digit (Option.isSome_of_eq_some hlow), List.cons_append, List.cons_append,
      List.cons_append, Form.unescape, if_pos rfl, hhigh, hlow]
    dsimp only
    rw [hbyte, UInt8.ofNat_toNat, ih, List.cons_append]

theorem encodePoint_of_isAscii {c : CodePoint} (h : c.isAscii = true) :
    Utf8.encodePoint c = [UInt8.ofNat c.value] :=
  if_pos (of_decide_eq_true h)

/-- What stands for a text is read as its UTF-8. -/
theorem Spells.unescape {w t : Text} (h : Spells w t) :
    unescape (w.map spaced) = t.flatMap Utf8.encodePoint := by
  induction h with
  | nil => rfl
  | space _ ih =>
    rw [List.map_cons, List.flatMap_cons, ← ih]
    exact unescape_cons (by decide) _
  | @plain c w t ascii unsigned _ ih =>
    have hspaced : spaced c = c := by
      refine if_neg ?_
      rintro rfl
      exact unsigned (by decide)
    have hpercent : c ≠ '%' := by
      rintro rfl
      exact unsigned (by decide)
    rw [List.map_cons, hspaced, unescape_cons hpercent, ih, List.flatMap_cons,
      encodePoint_of_isAscii ascii, List.singleton_append]
  | escaped escapes _ ih => rw [List.map_append, escapes.unescape, ih, List.flatMap_cons]

theorem decodeRuns_ascii {t : Text} (h : Text.isAscii t = true) (run : Text) :
    decodeRuns run t = Utf8.decodeLossy (unescape (run.reverse ++ t)) := by
  induction t generalizing run with
  | nil => rw [decodeRuns, List.append_nil]
  | cons c t ih =>
    rw [Text.isAscii_iff] at h
    rw [decodeRuns, if_pos (h c List.mem_cons_self),
      ih (Text.isAscii_iff.2 fun d hd => h d (List.mem_cons_of_mem c hd)), List.reverse_cons,
      List.append_assoc, List.singleton_append]

/-- What stands for a text is read as the text. -/
theorem Spells.decodeText {w t : Text} (h : Spells w t) (scalar : t.IsScalar) :
    decodeText w = t := by
  have hascii : Text.isAscii (w.map spaced) = true := by
    refine Text.isAscii_iff.2 fun c hc => ?_
    obtain ⟨d, hd, rfl⟩ := List.mem_map.1 hc
    exact isAscii_spaced (h.isInner d hd).1
  -- all of it is one run in ASCII, so the escapes are undone at once
  rw [decodeText_eq, decodeRuns_ascii hascii, List.reverse_nil, List.nil_append, h.unescape,
    Utf8.decodeLossy_encoded scalar]

/-! ### Forms -/

theorem SpellsParameter.decodeParameter {w : Text} {p : Text × Text} (h : SpellsParameter w p)
    (name : p.1.IsScalar) (value : p.2.IsScalar) : decodeParameter w = p := by
  obtain ⟨n, v, hname, hvalue, rfl⟩ := h
  have hcut : Text.cut? (· = '=') (n ++ "=" ++ v) = some (n, v) := by
    rw [List.append_assoc]
    exact Text.cut?_append (fun c hc => decide_eq_false (hname.isInner c hc).2.2) (by decide) v
  unfold Form.decodeParameter
  rw [hcut]
  dsimp only
  rw [hname.decodeText name, hvalue.decodeText value]

/-- A piece of a form that stands for a parameter. It has its `=`, so it is not dropped for being
empty. -/
def IsPiece (w : Text) : Prop := w ≠ [] ∧ ∀ c ∈ w, c.isAscii = true ∧ c ≠ '&'

theorem SpellsParameter.isPiece {w : Text} {p : Text × Text} (h : SpellsParameter w p) :
    IsPiece w := by
  obtain ⟨n, v, hname, hvalue, rfl⟩ := h
  have hinner : ∀ {t u : Text}, Spells t u → ∀ c ∈ t, c.isAscii = true ∧ c ≠ '&' :=
    fun h c hc => ⟨(h.isInner c hc).1, (h.isInner c hc).2.1⟩
  have hsign : ∀ c ∈ ("=" : Text), c.isAscii = true ∧ c ≠ '&' := by decide
  have hequals : ("=" : Text) ≠ [] := by decide
  exact ⟨List.append_ne_nil_of_left_ne_nil (List.append_ne_nil_of_right_ne_nil n hequals) v,
    List.forall_mem_append.2 ⟨List.forall_mem_append.2 ⟨hinner hname, hsign⟩, hinner hvalue⟩⟩

theorem isPiece_of_mem {ws : List Text} {parameters : List (Text × Text)}
    (h : List.Forall₂ SpellsParameter ws parameters) : ∀ w ∈ ws, IsPiece w :=
  ((List.forall₂_and_left _ _).1 (h.imp fun _ _ hw => ⟨hw.isPiece, hw⟩)).1

namespace SpellsAll

variable {w : Text} {parameters : List (Text × Text)}

/-- **What stands for parameters is read as these.** -/
theorem decode (h : SpellsAll w parameters)
    (scalar : ∀ p ∈ parameters, p.1.IsScalar ∧ p.2.IsScalar) : decode w = parameters := by
  obtain ⟨ws, heach, rfl⟩ := h
  have hpiece := isPiece_of_mem heach
  have hread : ws.map decodeParameter = parameters := by
    clear hpiece
    induction heach with
    | nil => rfl
    | cons hw _ ih =>
      obtain ⟨hp, hps⟩ := List.forall_mem_cons.1 scalar
      rw [List.map_cons, hw.decodeParameter hp.1 hp.2, ih hps]
  by_cases hnil : ws = []
  · subst hnil
    exact hread
  have hpieces : Text.pieces (· = '&') (Text.joined "&" ws) = ws :=
    Text.pieces_joined (by decide) hnil fun w hw c hc => decide_eq_false ((hpiece w hw).2 c hc).2
  have hfilled : ws.filter (fun w => !w.isEmpty) = ws :=
    List.filter_eq_self.2 fun w hw => by simpa using (hpiece w hw).1
  unfold Form.decode
  rw [hpieces, hfilled, hread]

theorem isAscii (h : SpellsAll w parameters) : Text.isAscii w = true := by
  obtain ⟨ws, heach, rfl⟩ := h
  refine Text.isAscii_iff.2 fun c hc => ?_
  rcases Text.mem_joined hc with hc | ⟨w, hw, hc⟩
  · rw [List.mem_singleton.1 hc]
    decide
  · exact ((isPiece_of_mem heach w hw).2 c hc).1

end SpellsAll

/-! ### What is written -/

theorem isAscii_of_isPlain {c : CodePoint} (h : isPlain c = true) : c.isAscii = true := by
  have hlt : c.value < 0x80 := by
    simp only [isPlain, CodePoint.isDigit, Bool.or_eq_true, Bool.and_eq_true,
      decide_eq_true_eq] at h
    rcases h with (((((h | h) | h) | rfl) | rfl) | rfl) | rfl
    · omega
    · omega
    · omega
    all_goals decide
  exact decide_eq_true hlt

theorem not_mem_signs {c : CodePoint} (h : isPlain c = true) : c ∉ signs := by
  have hsigns : ∀ d ∈ signs, isPlain d = false := by decide
  intro hc
  rw [hsigns c hc] at h
  cases h

theorem escapes_percent (bs : Bytes) : Escapes (bs.flatMap percent) bs := by
  induction bs with
  | nil => exact .nil
  | cons b bs ih =>
    have hb := b.toNat_lt
    exact .cons (Hex.hexDigit?_ofHexDigit _ (by omega)) (Hex.hexDigit?_ofHexDigit _ (by omega)) ih

/-- What is written of a text stands for it. -/
theorem spells_encodeText (t : Text) : Spells (encodeText t) t := by
  induction t with
  | nil => exact .nil
  | cons c t ih =>
    show Spells (encodePoint c ++ encodeText t) (c :: t)
    unfold encodePoint
    split
    · rename_i hspace
      subst hspace
      exact .space ih
    · split
      · rename_i hplain
        exact .plain (isAscii_of_isPlain hplain) (not_mem_signs hplain) ih
      · exact .escaped (escapes_percent _) ih

theorem spellsParameter_encodeParameter (p : Text × Text) :
    SpellsParameter (encodeParameter p) p :=
  ⟨_, _, spells_encodeText p.1, spells_encodeText p.2, rfl⟩

/-- What is written of parameters stands for them. -/
theorem spellsAll_encode (parameters : List (Text × Text)) :
    SpellsAll (encode parameters) parameters := by
  refine ⟨parameters.map encodeParameter, ?_, rfl⟩
  rw [List.forall₂_map_left_iff, List.forall₂_same]
  exact fun p _ => spellsParameter_encodeParameter p

/-! ### What is read has no lone surrogates -/

theorem not_surrogate_of_decodeRuns {t : Text} (h : ∀ c ∈ t, c.isSurrogate = false) (run : Text) :
    ∀ c ∈ decodeRuns run t, c.isSurrogate = false := by
  induction t generalizing run with
  | nil => exact fun c hc => Utf8.not_surrogate_of_decodeLossy hc
  | cons d t ih =>
    obtain ⟨hd, ht⟩ := List.forall_mem_cons.1 h
    intro c hc
    rw [decodeRuns] at hc
    split at hc
    · exact ih ht _ c hc
    · rcases List.mem_append.1 hc with hc | hc
      · exact Utf8.not_surrogate_of_decodeLossy hc
      · rcases List.mem_cons.1 hc with rfl | hc
        · exact hd
        · exact ih ht _ c hc

theorem not_surrogate_of_decodeText {t : Text} (h : ∀ c ∈ t, c.isSurrogate = false) :
    ∀ c ∈ decodeText t, c.isSurrogate = false := by
  refine not_surrogate_of_decodeRuns (fun c hc => ?_) []
  obtain ⟨d, hd, rfl⟩ := List.mem_map.1 hc
  split
  · rfl
  · exact h d hd

/-- Escapes stand for bytes, and no bytes are read as a lone surrogate: a value has one only if the
form has it. -/
theorem not_surrogate_of_parameters {t : Text} (h : ∀ c ∈ t, c.isSurrogate = false)
    {name value : Text} (hvalue : Entries.get? name (parameters t) = some value) :
    ∀ c ∈ value, c.isSurrogate = false := by
  have hmem := Entries.mem_of_mem_ofList (Entries.mem_of_get? hvalue)
  obtain ⟨piece, hpiece, heq⟩ := List.mem_map.1 hmem
  have hpiece : ∀ c ∈ piece, c.isSurrogate = false := fun c hc =>
    h c (Text.mem_of_mem_pieces (List.mem_filter.1 hpiece).1 hc)
  unfold decodeParameter at heq
  split at heq
  · rename_i name' value' hcut
    cases heq
    exact not_surrogate_of_decodeText fun c hc => hpiece c (Text.mem_of_cut? hcut (Or.inr hc))
  · cases heq
    exact List.forall_mem_nil _

end Form

end Issuance
