import Issuance.Proofs.Bytes.Alphabet

/-!
# Issuance.Proofs.Bytes.Base64

**Both readers of segments undo the writer.** `encodeUrl` writes characters of the URL alphabet
only (`forall_mem_encodeUrl`), which is why a segment can stand between points, in a JSON string
or in a form without being touched. The strict reader gets back what was written as it is, the
forgiving one after the padding is restored, also where the padding was kept and where blanks stand
around the text (`encodeUrl_inverted`).
-/

namespace Issuance

namespace Base64

/-! ### The alphabet -/

/-- What holds of the 64 characters holds of every character that is written. -/
theorem forall_mem_encodeUrl {p : CodePoint → Bool} (h : ∀ v < 64, p (urlChar v) = true)
    {bs : Bytes} : ∀ c ∈ encodeUrl bs, p c = true := by
  induction bs using encodeUrl.induct with
  | case1 =>
    intro c hc
    cases hc
  | case2 a =>
    have ha := a.toNat_lt
    intro c hc
    simp only [encodeUrl, List.mem_cons, List.not_mem_nil, or_false] at hc
    rcases hc with rfl | rfl <;> exact h _ (by omega)
  | case3 a b =>
    have ha := a.toNat_lt
    have hb := b.toNat_lt
    intro c hc
    simp only [encodeUrl, List.mem_cons, List.not_mem_nil, or_false] at hc
    rcases hc with rfl | rfl | rfl <;> exact h _ (by omega)
  | case4 a b c rest ih =>
    have ha := a.toNat_lt
    have hb := b.toNat_lt
    have hc := c.toNat_lt
    intro d hd
    simp only [encodeUrl, List.mem_cons] at hd
    rcases hd with rfl | rfl | rfl | rfl | hd
    · exact h _ (by omega)
    · exact h _ (by omega)
    · exact h _ (by omega)
    · exact h _ (by omega)
    · exact ih d hd

theorem isAscii_encodeUrl (bs : Bytes) : (encodeUrl bs).isAscii = true :=
  Text.isAscii_iff.2 (forall_mem_encodeUrl (by decide))

theorem not_blank_of_mem_encodeUrl {bs : Bytes} {c : CodePoint} (h : c ∈ encodeUrl bs) :
    c.isBlank = false := by
  have hblank := forall_mem_encodeUrl (p := fun c => !c.isBlank) (by decide) c h
  simpa using hblank

theorem encodeUrl_ne_nil {bs : Bytes} (h : bs ≠ []) : encodeUrl bs ≠ [] := by
  cases bs using encodeUrl.induct with
  | case1 => exact absurd rfl h
  | case2 a => simp [encodeUrl]
  | case3 a b => simp [encodeUrl]
  | case4 a b c rest => simp [encodeUrl]

theorem urlValue?_urlChar : ∀ v < 64, urlValue? (urlChar v) = some v := by decide

theorem eitherValue?_urlChar : ∀ v < 64, eitherValue? (urlChar v) = some v := by decide

theorem urlChar_ne_pad : ∀ v < 64, (urlChar v).value ≠ 0x3D := by decide

/-! ### Bytes from their bits -/

/-- The first byte of a group, from its six bits and two more. -/
theorem first_byte (a : UInt8) {n : Nat} (h : n < 16) :
    UInt8.ofNat (a.toNat / 4 * 4 + (a.toNat % 4 * 16 + n) / 16) = a := by
  have heq : a.toNat / 4 * 4 + (a.toNat % 4 * 16 + n) / 16 = a.toNat := by omega
  rw [heq, UInt8.ofNat_toNat]

/-- The second byte, from four bits and four. -/
theorem second_byte (m : Nat) (b : UInt8) {n : Nat} (h : n < 4) :
    UInt8.ofNat ((m * 16 + b.toNat / 16) % 16 * 16 + (b.toNat % 16 * 4 + n) / 4) = b := by
  have hb := b.toNat_lt
  have heq : (m * 16 + b.toNat / 16) % 16 * 16 + (b.toNat % 16 * 4 + n) / 4 = b.toNat := by omega
  rw [heq, UInt8.ofNat_toNat]

/-- The third byte, from two bits and six. -/
theorem third_byte (m : Nat) (c : UInt8) :
    UInt8.ofNat ((m * 4 + c.toNat / 64) % 4 * 64 + c.toNat % 64) = c := by
  have hc := c.toNat_lt
  have heq : (m * 4 + c.toNat / 64) % 4 * 64 + c.toNat % 64 = c.toNat := by omega
  rw [heq, UInt8.ofNat_toNat]

/-! ### The strict reader -/

theorem decodeExactly?_encodeUrl (bs : Bytes) :
    decodeExactly? urlValue? (encodeUrl bs) = some bs := by
  induction bs using encodeUrl.induct with
  | case1 => rfl
  | case2 a =>
    have ha := a.toNat_lt
    have h₁ := urlValue?_urlChar (a.toNat / 4) (by omega)
    have h₂ := urlValue?_urlChar (a.toNat % 4 * 16) (by omega)
    have hfirst := first_byte a (n := 0) (by decide)
    rw [Nat.add_zero] at hfirst
    rw [encodeUrl, decodeExactly?, h₁, h₂]
    show (if a.toNat % 4 * 16 % 16 = 0 then _ else none) = some [a]
    rw [if_pos (by omega), hfirst]
  | case3 a b =>
    have ha := a.toNat_lt
    have hb := b.toNat_lt
    have h₁ := urlValue?_urlChar (a.toNat / 4) (by omega)
    have h₂ := urlValue?_urlChar (a.toNat % 4 * 16 + b.toNat / 16) (by omega)
    have h₃ := urlValue?_urlChar (b.toNat % 16 * 4) (by omega)
    have hsecond := second_byte (a.toNat % 4) b (n := 0) (by decide)
    rw [Nat.add_zero] at hsecond
    rw [encodeUrl, decodeExactly?, h₁, h₂, h₃]
    show (if b.toNat % 16 * 4 % 4 = 0 then _ else none) = some [a, b]
    rw [if_pos (by omega), first_byte a (by omega), hsecond]
  | case4 a b c rest ih =>
    have ha := a.toNat_lt
    have hb := b.toNat_lt
    have hc := c.toNat_lt
    have h₁ := urlValue?_urlChar (a.toNat / 4) (by omega)
    have h₂ := urlValue?_urlChar (a.toNat % 4 * 16 + b.toNat / 16) (by omega)
    have h₃ := urlValue?_urlChar (b.toNat % 16 * 4 + c.toNat / 64) (by omega)
    have h₄ := urlValue?_urlChar (c.toNat % 64) (by omega)
    rw [encodeUrl, decodeExactly?, h₁, h₂, h₃, h₄, ih]
    show some (_ :: _ :: _ :: rest) = some (a :: b :: c :: rest)
    rw [first_byte a (by omega), second_byte (a.toNat % 4) b (by omega), third_byte]

/-- **The strict reader undoes the writer.** -/
theorem decodeStrictUrl?_encodeUrl (bs : Bytes) : decodeStrictUrl? (encodeUrl bs) = some bs := by
  unfold decodeStrictUrl?
  rw [if_neg, decodeExactly?_encodeUrl]
  intro hlast
  have hpad := forall_mem_encodeUrl (p := fun c => c ≠ ('=' : CodePoint)) (by decide) _
    (List.mem_of_getLast? hlast)
  exact of_decide_eq_true hpad rfl

/-! ### The forgiving reader -/

/-- One character of the alphabet is no padding and has its value. -/
theorem decodeFrom_urlChar {place carry pads v : Nat} (h : v < 64) (t : Text) :
    decodeFrom eitherValue? place carry pads (urlChar v :: t) =
      match place with
      | 0 => decodeFrom eitherValue? 1 v 0 t
      | 1 => (decodeFrom eitherValue? 2 (v % 16) 0 t).map (UInt8.ofNat (carry * 4 + v / 16) :: ·)
      | 2 => (decodeFrom eitherValue? 3 (v % 4) 0 t).map (UInt8.ofNat (carry * 16 + v / 4) :: ·)
      | _ => (decodeFrom eitherValue? 0 0 0 t).map (UInt8.ofNat (carry * 64 + v) :: ·) := by
  rcases place with _ | _ | _ | place <;>
    simp only [decodeFrom, if_neg (urlChar_ne_pad v h), eitherValue?_urlChar v h]

/-- The first two characters of a group give its first byte. -/
theorem decodeFrom_first (a : UInt8) {n : Nat} (h : n < 16) (t : Text) :
    decodeFrom eitherValue? 0 0 0
        (urlChar (a.toNat / 4) :: urlChar (a.toNat % 4 * 16 + n) :: t) =
      (decodeFrom eitherValue? 2 n 0 t).map (a :: ·) := by
  have ha := a.toNat_lt
  rw [decodeFrom_urlChar (by omega), decodeFrom_urlChar (by omega)]
  show (decodeFrom eitherValue? 2 _ 0 t).map (UInt8.ofNat _ :: ·) = _
  rw [first_byte a h]
  congr 2
  omega

/-- The third character gives the second byte. -/
theorem decodeFrom_second (b : UInt8) {n : Nat} (h : n < 4) (t : Text) :
    decodeFrom eitherValue? 2 (b.toNat / 16) 0 (urlChar (b.toNat % 16 * 4 + n) :: t) =
      (decodeFrom eitherValue? 3 n 0 t).map (b :: ·) := by
  have hb := b.toNat_lt
  have hsecond := second_byte 0 b h
  have heq : (0 * 16 + b.toNat / 16) % 16 = b.toNat / 16 := by omega
  rw [heq] at hsecond
  rw [decodeFrom_urlChar (by omega)]
  show (decodeFrom eitherValue? 3 _ 0 t).map (UInt8.ofNat _ :: ·) = _
  rw [hsecond]
  congr 2
  omega

/-- The fourth character gives the third byte and ends the group. -/
theorem decodeFrom_third (c : UInt8) (t : Text) :
    decodeFrom eitherValue? 3 (c.toNat / 64) 0 (urlChar (c.toNat % 64) :: t) =
      (decodeFrom eitherValue? 0 0 0 t).map (c :: ·) := by
  have hc := c.toNat_lt
  have hthird := third_byte 0 c
  have heq : (0 * 4 + c.toNat / 64) % 4 = c.toNat / 64 := by omega
  rw [heq] at hthird
  rw [decodeFrom_urlChar (by omega)]
  show (decodeFrom eitherValue? 0 0 0 t).map (UInt8.ofNat _ :: ·) = _
  rw [hthird]

theorem decodeFrom_encodeUrl (bs : Bytes) :
    decodeFrom eitherValue? 0 0 0 (encodeUrl bs ++ padding (encodeUrl bs)) = some bs := by
  induction bs using encodeUrl.induct with
  | case1 => rfl
  | case2 a =>
    have hfirst := decodeFrom_first a (n := 0) (by decide)
    rw [Nat.add_zero] at hfirst
    rw [encodeUrl, List.cons_append, List.cons_append, hfirst]
    rfl
  | case3 a b =>
    have hb := b.toNat_lt
    have hsecond := decodeFrom_second b (n := 0) (by decide)
    rw [Nat.add_zero] at hsecond
    rw [encodeUrl, List.cons_append, List.cons_append, List.cons_append,
      decodeFrom_first a (by omega), hsecond]
    rfl
  | case4 a b c rest ih =>
    have hb := b.toNat_lt
    have hc := c.toNat_lt
    have hpad : padding (encodeUrl (a :: b :: c :: rest)) = padding (encodeUrl rest) := by
      unfold padding
      rw [encodeUrl]
      simp only [List.length_cons]
      congr 2
      omega
    rw [hpad, encodeUrl]
    simp only [List.cons_append]
    rw [decodeFrom_first a (by omega), decodeFrom_second b (by omega), decodeFrom_third, ih]
    rfl

/-- A text that has its padding lacks none. -/
theorem padding_append_padding (t : Text) : padding (t ++ padding t) = [] := by
  have hwhole : (4 - (t ++ padding t).length % 4) % 4 = 0 := by
    rw [List.length_append, padding, List.length_replicate]
    omega
  rw [padding, hwhole, List.replicate_zero]

/-- What matters of a text is what is left when it is trimmed. -/
theorem decodeUrl?_of_trim {t s : Text} (htrim : t.trim = s) (hascii : s.isAscii = true)
    {bs : Bytes} (h : decodeFrom eitherValue? 0 0 0 (s ++ padding s) = some bs) :
    decodeUrl? t = .ok bs := by
  unfold decodeUrl?
  rw [htrim]
  dsimp only
  rw [hascii, h]
  rfl

/-- **The forgiving reader undoes the writer**, whatever blanks are put around the text. -/
theorem decodeUrl?_surrounded {before after : Text} (hbefore : ∀ c ∈ before, c.isBlank = true)
    (hafter : ∀ c ∈ after, c.isBlank = true) (bs : Bytes) :
    decodeUrl? (before ++ encodeUrl bs ++ after) = .ok bs :=
  decodeUrl?_of_trim
    (Text.trim_surrounded hbefore (fun _ hc => not_blank_of_mem_encodeUrl hc) hafter)
    (isAscii_encodeUrl bs) (decodeFrom_encodeUrl bs)

/-- Nor does it matter that the padding is there. -/
theorem decodeUrl?_padded {before after : Text} (hbefore : ∀ c ∈ before, c.isBlank = true)
    (hafter : ∀ c ∈ after, c.isBlank = true) (bs : Bytes) :
    decodeUrl? (before ++ (encodeUrl bs ++ padding (encodeUrl bs)) ++ after) = .ok bs := by
  have hmem : ∀ {p : CodePoint → Bool}, (∀ c ∈ encodeUrl bs, p c = true) → p '=' = true →
      ∀ c ∈ encodeUrl bs ++ padding (encodeUrl bs), p c = true := by
    intro p hp hpad c hc
    rcases List.mem_append.1 hc with hc | hc
    · exact hp c hc
    · rwa [List.eq_of_mem_replicate hc]
  have hblank : ∀ c ∈ encodeUrl bs ++ padding (encodeUrl bs), c.isBlank = false := by
    intro c hc
    simpa using hmem (p := fun c => !c.isBlank) (forall_mem_encodeUrl (by decide)) (by decide) c hc
  refine decodeUrl?_of_trim (Text.trim_surrounded hbefore hblank hafter)
    (Text.isAscii_iff.2 (hmem (forall_mem_encodeUrl (by decide)) (by decide))) ?_
  rw [padding_append_padding, List.append_nil]
  exact decodeFrom_encodeUrl bs

theorem decodeUrl?_encodeUrl (bs : Bytes) : decodeUrl? (encodeUrl bs) = .ok bs := by
  have h := decodeUrl?_surrounded (List.forall_mem_nil _) (List.forall_mem_nil _) bs
  rwa [List.nil_append, List.append_nil] at h

/-- **What is written is read back.** Any bytes are written in the 64 characters of the URL alphabet,
and the forgiving reader reads these bytes off what is written: as it stands, with the padding that
completes its last group of four, and with any blanks around it in either case. -/
theorem encodeUrl_inverted (bs : Bytes) :
    (∀ c ∈ encodeUrl bs, isUrlChar c = true) ∧ decodeUrl? (encodeUrl bs) = .ok bs ∧
      decodeUrl? (encodeUrl bs ++ padding (encodeUrl bs)) = .ok bs ∧
      ∀ before after : Text, (∀ c ∈ before, c.isBlank = true) → (∀ c ∈ after, c.isBlank = true) →
        decodeUrl? (before ++ encodeUrl bs ++ after) = .ok bs ∧
        decodeUrl? (before ++ (encodeUrl bs ++ padding (encodeUrl bs)) ++ after) = .ok bs := by
  have hpadded := decodeUrl?_padded (List.forall_mem_nil _) (List.forall_mem_nil _) bs
  rw [List.nil_append, List.append_nil] at hpadded
  exact ⟨forall_mem_encodeUrl (by decide), decodeUrl?_encodeUrl bs, hpadded,
    fun before after hbefore hafter =>
      ⟨decodeUrl?_surrounded hbefore hafter bs, decodeUrl?_padded hbefore hafter bs⟩⟩

/-- Two bytes, written as `-_8` with one sign of padding, between a line break and a wide space. -/
theorem two_bytes_inverted :
    encodeUrl [0xFB, 0xFF] = "-_8" ∧ padding "-_8" = "=" ∧
      (∀ c ∈ ("\n" : Text), c.isBlank = true) ∧ (∀ c ∈ ("\u3000" : Text), c.isBlank = true) ∧
      decodeUrl? ("\n" ++ ("-_8" ++ "=") ++ "\u3000") = .ok [0xFB, 0xFF] := by
  have hwritten : encodeUrl [0xFB, 0xFF] = "-_8" := by decide
  have hpadding : padding "-_8" = "=" := by decide
  have hbefore : ∀ c ∈ ("\n" : Text), c.isBlank = true := by decide
  have hafter : ∀ c ∈ ("\u3000" : Text), c.isBlank = true := by decide
  obtain ⟨-, -, -, hsurrounded⟩ := encodeUrl_inverted [0xFB, 0xFF]
  have hpadded := (hsurrounded _ _ hbefore hafter).2
  rw [hwritten, hpadding] at hpadded
  exact ⟨hwritten, hpadding, hbefore, hafter, hpadded⟩

end Base64

end Issuance
