import Issuance.Envelope.Decrypter
import Issuance.Proofs.Signed.Verifier
import Issuance.Proofs.Text.Pieces

/-!
# Issuance.Proofs.Envelope.Refusal

**How the opening of an envelope fails.** Every fault of an envelope has a report but one. A segment
may have blanks at its ends, also such as are not ASCII, and is decoded without them. What the tag
covers, though, is the header's segment as it was received, and that has no bytes where it is not
ASCII (`decryptCompact_eq_headerNotAscii`, `isBlank_of_parse`).
-/

namespace Issuance

namespace Envelope

/-- Any fault of an envelope but one is reported. -/
theorem Fault.exists_report {f : Fault} (h : f ≠ .headerNotAscii) :
    ∃ report, f.failure = .fault report := by
  cases f with
  | headerNotAscii => exact absurd rfl h
  | _ => exact ⟨_, rfl⟩

/-- A fault of the compact form: there are not five segments, or one of them is malformed. -/
inductive Fault.IsOfForm : Fault → Prop
  | partCount (count : Nat) : IsOfForm (.partCount count)
  | malformed (fault : SegmentFault) : IsOfForm (.malformed fault)

/-- Faults of the compact form are reported as a decryption that failed. -/
theorem Fault.IsOfForm.exists_report {f : Fault} (h : f.IsOfForm) :
    ∃ report, f.failure = .fault report ∧ report.kind = .decryptionFailed := by
  cases h <;> exact ⟨_, rfl, rfl⟩

theorem failsOnly_segment (t : Text) : FailsOnly Fault.IsOfForm (segment t) := by
  unfold segment
  split
  · exact .ok _
  · exact .error (.malformed _)

theorem failsOnly_optionalSegment (t : Text) : FailsOnly Fault.IsOfForm (optionalSegment t) := by
  unfold optionalSegment
  split
  · exact .ok none
  · exact (failsOnly_segment t).bind fun bs _ => .ok (some bs)

theorem failsOnly_headerMembers (t : Text) : FailsOnly Fault.IsOfForm (headerMembers t) := by
  refine (failsOnly_segment t).bind fun bs _ => ?_
  split
  · exact .error (.malformed _)
  · split
    · exact .error (.malformed _)
    · exact .ok _
    · exact .error (.malformed _)

theorem failsOnly_parse (serialized : Text) : FailsOnly Fault.IsOfForm (parse serialized) := by
  unfold parse
  split
  · refine (failsOnly_headerMembers _).bind fun members _ => ?_
    refine (failsOnly_optionalSegment _).bind fun wrapped _ => ?_
    refine (failsOnly_optionalSegment _).bind fun initialValue _ => ?_
    refine (failsOnly_segment _).bind fun cipherText _ => ?_
    exact (failsOnly_optionalSegment _).bind fun tag _ => .ok _
  · exact .error (.partCount _)

/-- What is not ASCII in the header's segment is a blank at an end of it: all else is decoded. -/
theorem isBlank_of_parse {serialized : Text} {e : Envelope} (h : parse serialized = .ok e)
    {c : CodePoint} (hc : c ∈ e.header.encoded) (hascii : c.isAscii = false) :
    c ∉ e.header.encoded.trim ∧ c.isBlank = true := by
  have hsegment : ∃ bs, segment e.header.encoded = .ok bs := by
    unfold parse at h
    split at h
    · obtain ⟨members, hmembers, h⟩ := bind_eq_ok.1 h
      obtain ⟨bs, hbs, -⟩ := bind_eq_ok.1 hmembers
      simp only [bind_eq_ok, Except.ok.injEq] at h
      obtain ⟨_, -, _, -, _, -, _, -, rfl⟩ := h
      exact ⟨bs, hbs⟩
    · cases h
  have htrimmed : c ∉ e.header.encoded.trim := by
    intro hmem
    have hnot : e.header.encoded.trim.isAscii = false :=
      List.all_eq_false.2 ⟨c, hmem, by rw [hascii]; exact Bool.false_ne_true⟩
    obtain ⟨bs, hbs⟩ := hsegment
    unfold segment Base64.decodeUrl? at hbs
    dsimp only at hbs
    rw [hnot] at hbs
    cases hbs
  exact ⟨htrimmed, (Text.mem_trim_or_isBlank hc).resolve_left htrimmed⟩

theorem failsOnly_decryptContent (contentKey initialValue cipherText tag additional : Bytes) :
    FailsOnly (· ≠ Fault.headerNotAscii)
      (decryptContent contentKey initialValue cipherText tag additional) := by
  unfold decryptContent
  split
  · exact .error (by simp)
  · split
    · exact .error (by simp)
    · split
      · exact .error (by simp)
      · split
        · exact .ok _
        · exact .error (by simp)

namespace Decrypter

theorem failsOnly_requirements (e : Envelope) :
    FailsOnly (· ≠ Fault.headerNotAscii) (requirements e) := by
  unfold requirements
  split
  · exact .error (by simp)
  · exact .error (by simp)
  · exact .error (by simp)
  · split
    · exact .ok _
    · exact .error (by simp)

theorem failsOnly_unwrapContentKey (d : Decrypter) (service : KeyService) (wrapped : Bytes) :
    FailsOnly (· ≠ Fault.headerNotAscii) (d.unwrapContentKey service wrapped).result := by
  unfold unwrapContentKey
  split
  · dsimp only
    split
    · exact .ok _
    · exact .error (by simp)
  · split
    · exact .ok _
    · exact .error (by simp)

/-- An envelope is in order up to its content key, but its header's segment is not ASCII. -/
def MeetsForeignHeader (d : Decrypter) (service : KeyService) (serialized : Text) : Prop :=
  ∃ e wrapped initialValue tag key, parse serialized = .ok e ∧
    requirements e = .ok (wrapped, initialValue, tag) ∧
    (d.unwrapContentKey service wrapped).result = .ok key ∧ e.header.encoded.isAscii = false

/-- The last stage of an opening: the content, with what its tag covers. -/
def openContent (e : Envelope) (contentKey initialValue tag : Bytes) : Except Fault Bytes :=
  match e.header.additional? with
  | none => .error .headerNotAscii
  | some additional => decryptContent contentKey initialValue e.cipherText tag additional

theorem openContent_eq_headerNotAscii {e : Envelope} {contentKey initialValue tag : Bytes} :
    openContent e contentKey initialValue tag = .error .headerNotAscii ↔
      e.header.encoded.isAscii = false := by
  unfold openContent
  cases hascii : e.header.encoded.isAscii with
  | true =>
    have hadditional : e.header.additional? = some (Bytes.ofAscii e.header.encoded) :=
      if_pos hascii
    rw [hadditional]
    exact iff_of_false (fun h => failsOnly_decryptContent _ _ _ _ _ _ h rfl) (by simp)
  | false =>
    have hadditional : e.header.additional? = none := if_neg (hascii ▸ Bool.false_ne_true)
    rw [hadditional]
    exact iff_of_true rfl rfl

/-- An opening is a chain of stages. -/
theorem result_decryptCompact (d : Decrypter) (service : KeyService) (serialized : Text) :
    (d.decryptCompact service serialized).result =
      (parse serialized >>= fun e => requirements e >>= fun parts =>
        (d.unwrapContentKey service parts.1).result >>= fun key =>
          openContent e key parts.2.1 parts.2.2) := by
  unfold decryptCompact
  cases parse serialized with
  | error f => rfl
  | ok e =>
    show (d.decrypt service e).result = (requirements e >>= _)
    unfold decrypt
    cases requirements e with
    | error f => rfl
    | ok parts =>
      show _ = ((d.unwrapContentKey service parts.1).result >>= _)
      dsimp only
      cases hkey : (d.unwrapContentKey service parts.1).result with
      | error f => exact hkey
      | ok key =>
        show _ = openContent e key parts.2.1 parts.2.2
        unfold openContent
        cases e.header.additional? with
        | none => rfl
        | some additional => dsimp only

/-- This, and nothing else, leaves nothing for the tag to cover. -/
theorem decryptCompact_eq_headerNotAscii {d : Decrypter} {service : KeyService}
    {serialized : Text} : (d.decryptCompact service serialized).result = .error .headerNotAscii ↔
      d.MeetsForeignHeader service serialized := by
  have hform : ¬ Fault.headerNotAscii.IsOfForm := nofun
  have hother : ¬ Fault.headerNotAscii ≠ Fault.headerNotAscii := fun h => h rfl
  rw [result_decryptCompact, (failsOnly_parse serialized).bind_eq_error hform]
  constructor
  · rintro ⟨e, hparse, h⟩
    obtain ⟨⟨wrapped, initialValue, tag⟩, hrequired, h⟩ :=
      ((failsOnly_requirements e).bind_eq_error hother _).1 h
    obtain ⟨key, hkey, h⟩ :=
      ((failsOnly_unwrapContentKey d service wrapped).bind_eq_error hother _).1 h
    exact ⟨e, wrapped, initialValue, tag, key, hparse, hrequired, hkey,
      openContent_eq_headerNotAscii.1 h⟩
  · rintro ⟨e, wrapped, initialValue, tag, key, hparse, hrequired, hkey, hascii⟩
    have hopened : openContent e key initialValue tag = .error .headerNotAscii :=
      openContent_eq_headerNotAscii.2 hascii
    refine ⟨e, hparse, ((failsOnly_requirements e).bind_eq_error hother _).2 ⟨_, hrequired, ?_⟩⟩
    exact ((failsOnly_unwrapContentKey d service wrapped).bind_eq_error hother _).2
      ⟨key, hkey, hopened⟩

end Decrypter

end Envelope

end Issuance
