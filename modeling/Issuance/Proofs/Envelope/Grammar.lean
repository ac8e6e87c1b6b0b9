import Issuance.Proofs.Bytes.Forgiving
import Issuance.Proofs.Envelope.Refusal

/-!
# Issuance.Proofs.Envelope.Grammar

**The compact form and what passes for it.** A compact form has five segments of Base64 for URLs,
the first of them an object in JSON. What is parsed has five segments, and the first is such an
object (`parse_isOk_iff`); but a segment is whatever the forgiving reader can read, and that skips
characters that belong to no segment and stops at padding wherever it completes a group. So a text
abides by the grammar unless all of its pieces are readable and one of them is no segment
(`abides_iff`).
-/

namespace Issuance

namespace Envelope

/-- A segment: characters of Base64 for URLs, and after them nothing but padding. -/
def IsSegment (t : Text) : Prop :=
  ∃ body pads, t = body ++ pads ∧ (∀ c ∈ body, Base64.isUrlChar c = true) ∧
    ∀ c ∈ pads, c.value = 0x3D

/-- A segment holds an object in JSON, in UTF-8. -/
def HoldsObject (t : Text) : Prop :=
  ∃ bs text members, Base64.decodeUrl? t = .ok bs ∧ Utf8.decode? bs = some text ∧
    Json.read? text = some (.obj members)

/-- A text has five pieces between its points, blanks around it apart. Each of them is of a form,
and the first holds an object. -/
def IsFivefold (form : Text → Prop) (serialized : Text) : Prop :=
  ∃ header rest, Text.pieces (· = '.') serialized.trim = header :: rest ∧ rest.length = 4 ∧
    HoldsObject header ∧ ∀ t ∈ header :: rest, form t

/-- A text is in the compact form. -/
def IsCompact (serialized : Text) : Prop := IsFivefold IsSegment serialized

/-- A text is parsed only if it is in the compact form, and where it is not parsed, that is reported
as a decryption that failed. -/
structure Abides (serialized : Text) : Prop where
  accepted : ∀ e, parse serialized = .ok e → IsCompact serialized
  refused : ∀ f, parse serialized = .error f →
    ∃ report, f.failure = .fault report ∧ report.kind = .decryptionFailed

/-- A text is readable piece by piece, but one of the pieces is no segment. -/
structure Strays (serialized : Text) : Prop where
  readable : IsFivefold Base64.IsReadable serialized
  stray : ∃ t ∈ Text.pieces (· = '.') serialized.trim, ¬ IsSegment t

/-! ### What is parsed -/

theorem segment_isOk_iff {t : Text} : (∃ bs, segment t = .ok bs) ↔ Base64.IsReadable t := by
  rw [← Base64.decodeUrl?_isOk_iff]
  unfold segment
  cases Base64.decodeUrl? t <;> simp

/-- An empty segment is readable, and so is an absent part. -/
theorem optionalSegment_isOk_iff {t : Text} :
    (∃ part, optionalSegment t = .ok part) ↔ Base64.IsReadable t := by
  rw [← segment_isOk_iff]
  unfold optionalSegment
  cases t with
  | nil => exact iff_of_true ⟨none, rfl⟩ ⟨[], rfl⟩
  | cons c t => cases segment (c :: t) <;> simp [Except.map]

theorem headerMembers_isOk_iff {t : Text} :
    (∃ members, headerMembers t = .ok members) ↔ HoldsObject t := by
  unfold headerMembers HoldsObject segment
  cases Base64.decodeUrl? t with
  | error f => simp [bind_eq_ok]
  | ok bs =>
    simp only [bind_eq_ok, Except.ok.injEq, exists_eq_left', exists_and_left]
    cases Utf8.decode? bs with
    | none => simp
    | some text =>
      cases hv : Json.read? text with
      | none => simp [hv]
      | some v => cases v <;> simp [hv]

/-- What holds an object is readable. -/
theorem HoldsObject.isReadable {t : Text} (h : HoldsObject t) : Base64.IsReadable t := by
  obtain ⟨bs, -, -, hdecodes, -, -⟩ := h
  exact Base64.decodeUrl?_isOk_iff.1 ⟨bs, hdecodes⟩

/-- **What is parsed is readable piece by piece.** -/
theorem parse_isOk_iff {serialized : Text} :
    (∃ e, parse serialized = .ok e) ↔ IsFivefold Base64.IsReadable serialized := by
  unfold parse IsFivefold
  split
  · rename_i header wrappedKey initialValue cipherText tag hpieces
    constructor
    · rintro ⟨e, h⟩
      obtain ⟨members, hmembers, h⟩ := bind_eq_ok.1 h
      obtain ⟨_, hwrapped, h⟩ := bind_eq_ok.1 h
      obtain ⟨_, hinitial, h⟩ := bind_eq_ok.1 h
      obtain ⟨_, hcipher, h⟩ := bind_eq_ok.1 h
      obtain ⟨_, htag, -⟩ := bind_eq_ok.1 h
      have hobject := headerMembers_isOk_iff.1 ⟨members, hmembers⟩
      refine ⟨header, _, hpieces, rfl, hobject, ?_⟩
      simp only [List.forall_mem_cons]
      exact ⟨hobject.isReadable, optionalSegment_isOk_iff.1 ⟨_, hwrapped⟩,
        optionalSegment_isOk_iff.1 ⟨_, hinitial⟩, segment_isOk_iff.1 ⟨_, hcipher⟩,
        optionalSegment_isOk_iff.1 ⟨_, htag⟩, nofun⟩
    · rintro ⟨_, _, hpieces', -, hobject, hreadable⟩
      cases hpieces.symm.trans hpieces'
      simp only [List.forall_mem_cons] at hreadable
      obtain ⟨-, hwrapped, hinitial, hcipher, htag, -⟩ := hreadable
      obtain ⟨members, hmembers⟩ := headerMembers_isOk_iff.2 hobject
      obtain ⟨_, hwrapped⟩ := optionalSegment_isOk_iff.2 hwrapped
      obtain ⟨_, hinitial⟩ := optionalSegment_isOk_iff.2 hinitial
      obtain ⟨_, hcipher⟩ := segment_isOk_iff.2 hcipher
      obtain ⟨_, htag⟩ := optionalSegment_isOk_iff.2 htag
      rw [hmembers, hwrapped, hinitial, hcipher, htag]
      exact ⟨_, rfl⟩
  · rename_i hother
    refine iff_of_false nofun ?_
    rintro ⟨header, rest, hpieces, hlength, -⟩
    match rest, hlength with
    | [wrappedKey, initialValue, cipherText, tag], _ => exact hother _ _ _ _ _ hpieces

/-! ### The grammar -/

/-- What is readable and made of segments is in the compact form. -/
theorem isCompact_iff_of_readable {serialized : Text}
    (h : IsFivefold Base64.IsReadable serialized) :
    IsCompact serialized ↔ ∀ t ∈ Text.pieces (· = '.') serialized.trim, IsSegment t := by
  obtain ⟨header, rest, hpieces, hlength, hobject, -⟩ := h
  constructor
  · rintro ⟨_, _, hpieces', -, -, hsegments⟩
    rw [hpieces']
    exact hsegments
  · intro hsegments
    rw [hpieces] at hsegments
    exact ⟨header, rest, hpieces, hlength, hobject, hsegments⟩

/-- **Only what is readable without being in the grammar strays.** A text abides by the grammar
unless it has five pieces, each of which the forgiving reader can read, the first as an object in
JSON, and one of them has a character that belongs to no segment, or more than padding after
padding. -/
theorem abides_iff {serialized : Text} : Abides serialized ↔ ¬ Strays serialized := by
  constructor
  · rintro habides ⟨hreadable, t, ht, hstray⟩
    obtain ⟨e, he⟩ := parse_isOk_iff.2 hreadable
    exact hstray ((isCompact_iff_of_readable hreadable).1 (habides.accepted e he) t ht)
  · intro h
    refine ⟨fun e he => ?_, fun f hf => (failsOnly_parse serialized f hf).exists_report⟩
    have hreadable := parse_isOk_iff.1 ⟨e, he⟩
    refine (isCompact_iff_of_readable hreadable).2 fun t ht => ?_
    exact Classical.byContradiction fun hstray => h ⟨hreadable, t, ht, hstray⟩

/-- A text with a character that is neither of Base64 for URLs nor padding is no segment. -/
theorem not_isSegment_of_mem {t : Text} {c : CodePoint} (hc : c ∈ t)
    (hurl : Base64.isUrlChar c = false) (hpad : c.value ≠ 0x3D) : ¬ IsSegment t := by
  rintro ⟨body, pads, rfl, hbody, hpads⟩
  rcases List.mem_append.1 hc with hc | hc
  · cases hurl.symm.trans (hbody c hc)
  · exact hpad (hpads c hc)

/-- **A row of exclamation marks passes for a wrapped key**, one that is there and has no bytes. -/
theorem exclamation_marks_pass : ¬ Abides "e30.!!!!.AA.AA.AA" := by
  intro h
  have hparse : ∃ e, parse "e30.!!!!.AA.AA.AA" = .ok e :=
    ⟨⟨⟨[], "e30"⟩, some [], some [0], [0], some [0]⟩, eq_ok_of_toOption (by decide +kernel)⟩
  obtain ⟨e, he⟩ := hparse
  obtain ⟨header, rest, hpieces, -, -, hsegments⟩ := h.accepted e he
  have hmarks : ("!!!!" : Text) ∈ header :: rest := by
    rw [← hpieces]
    decide
  exact not_isSegment_of_mem (c := '!') (by decide) (by decide) (by decide) (hsegments _ hmarks)

end Envelope

end Issuance
