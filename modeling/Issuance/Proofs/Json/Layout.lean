import Issuance.Proofs.Json.Numeral

/-!
# Issuance.Proofs.Json.Layout

**Floating-point numbers are read as they are written.** However the layout places the point, with
zeros before the digits or after them or with an exponent, it writes a numeral that has the value of
the digits (`standard_write`). The digits are those of the shortest decimal, and so the number comes
back (`scalar?_float`).
-/

namespace Issuance

theorem decimalValue_mul_pow (digits zeros : Nat) (exponent : Int) :
    decimalValue (digits * Nat.pow 10 zeros) exponent = decimalValue digits (exponent + zeros) := by
  unfold decimalValue
  rw [zpow_add₀ (by norm_num), zpow_natCast]
  show ((digits * 10 ^ zeros : ℕ) : ℚ) * 10 ^ exponent = _
  push_cast
  ring

namespace Binary64

/-! ### The digits that count -/

/-- Only zeros are dropped from the end. -/
theorem significant_append_zeros (t : Text) :
    ∃ count, t = significant t ++ List.replicate count ('0' : CodePoint) := by
  have hzeros : t.reverse.takeWhile (·.value == 0x30) =
      List.replicate (t.reverse.takeWhile (·.value == 0x30)).length ('0' : CodePoint) := by
    refine List.eq_replicate_iff.2 ⟨rfl, fun c hc => ?_⟩
    have hvalue := List.all_eq_true.1 (List.all_takeWhile (l := t.reverse)) c hc
    exact CodePoint.eq_of_value_eq (eq_of_beq hvalue)
  refine ⟨(t.reverse.takeWhile (·.value == 0x30)).length, ?_⟩
  calc t = (t.reverse.takeWhile (·.value == 0x30) ++
        t.reverse.dropWhile (·.value == 0x30)).reverse := by
        rw [List.takeWhile_append_dropWhile, List.reverse_reverse]
    _ = significant t ++ (t.reverse.takeWhile (·.value == 0x30)).reverse := List.reverse_append
    _ = _ := by rw [hzeros, List.reverse_replicate, List.length_replicate]

/-- A row of digits to lay out: there are some, and no zero leads. -/
structure Leads (t : Text) : Prop where
  digits : Text.AreDigits t
  filled : t ≠ []
  lead : t.head? ≠ some ('0' : CodePoint)

theorem leads_significant {n : Nat} (h : 0 < n) : Leads (significant (Text.ofNat n)) := by
  obtain ⟨count, hsplit⟩ := significant_append_zeros (Text.ofNat n)
  have hne : significant (Text.ofNat n) ≠ [] := by
    intro hnil
    rw [hnil, List.nil_append] at hsplit
    have hvalue := Text.digitsValue_ofNat n
    rw [hsplit, Text.digitsValue_zeros] at hvalue
    omega
  refine ⟨fun c hc => Text.areDigits_ofNat n c ?_, hne, fun hlead => Text.head?_ofNat h ?_⟩
  · rw [hsplit]
    exact List.mem_append_left _ hc
  · rw [hsplit, List.head?_append_of_ne_nil _ hne]
    exact hlead

end Binary64

namespace Json

open Binary64 (Leads)

/-! ### Laying digits out -/

/-- A numeral for a floating-point number, of which the value is that of `digits` where the first
of them has the given exponent. -/
structure Numeral.LaysOut (n : Numeral) (digits : Text) (exponent : Int) : Prop where
  wellFormed : n.WellFormed
  float : n.fraction.isSome ∨ n.exponent.isSome
  value : decimalValue (Text.digitsValue n.allDigits) n.scale =
    decimalValue (Text.digitsValue digits) (exponent + 1 - digits.length)

theorem areDigits_zero : Text.AreDigits [('0' : CodePoint)] := Text.areDigits_zeros 1

theorem areDigits_zeroPadded (width n : Nat) :
    Text.AreDigits (DecimalLayout.zeroPadded width (Text.ofNat n)) :=
  (Text.areDigits_zeros _).append (Text.areDigits_ofNat n)

theorem digitsValue_zeroPadded (width n : Nat) :
    Text.digitsValue (DecimalLayout.zeroPadded width (Text.ofNat n)) = n := by
  unfold DecimalLayout.zeroPadded
  rw [Text.digitsValue_append, Text.digitsValue_zeros, Nat.zero_mul, Nat.zero_add,
    Text.digitsValue_ofNat]

theorem zeroPadded_ne_nil (width n : Nat) :
    DecimalLayout.zeroPadded width (Text.ofNat n) ≠ [] :=
  List.append_ne_nil_of_right_ne_nil _ (Text.ofNat_ne_nil n)

variable {digits : Text}

/-- Digits after the point and zeros. -/
theorem laysOut_below_one (h : Leads digits) {exponent : Int} {zeros : Nat}
    (hexponent : exponent = -(zeros + 1)) :
    Numeral.LaysOut ⟨[('0' : CodePoint)],
      some (List.replicate zeros ('0' : CodePoint) ++ digits), none⟩ digits exponent where
  wellFormed := {
    whole := areDigits_zero
    filled := List.cons_ne_nil _ _
    lead := fun _ => rfl
    fraction := by
      rintro ds ⟨⟩
      exact ⟨(Text.areDigits_zeros zeros).append h.digits,
        List.append_ne_nil_of_right_ne_nil _ h.filled⟩
    exponent := nofun }
  float := Or.inl rfl
  value := by
    have hvalue : Text.digitsValue (List.replicate 1 ('0' : CodePoint) ++
        (List.replicate zeros ('0' : CodePoint) ++ digits)) = Text.digitsValue digits := by
      rw [← List.append_assoc, List.replicate_append_replicate, Text.digitsValue_append,
        Text.digitsValue_zeros, Nat.zero_mul, Nat.zero_add]
    have hscale : (0 - ((List.replicate zeros ('0' : CodePoint) ++ digits).length : Nat) : Int) =
        exponent + 1 - digits.length := by
      rw [List.length_append, List.length_replicate]
      omega
    exact congrArg₂ decimalValue hvalue hscale

/-- Digits with zeros after them, and nothing behind the point. -/
theorem laysOut_whole (h : Leads digits) {exponent : Int} {zeros : Nat}
    (hexponent : exponent = zeros + digits.length - 1) :
    Numeral.LaysOut ⟨digits ++ List.replicate zeros ('0' : CodePoint),
      some [('0' : CodePoint)], none⟩ digits exponent where
  wellFormed := {
    whole := h.digits.append (Text.areDigits_zeros zeros)
    filled := List.append_ne_nil_of_left_ne_nil h.filled _
    lead := by
      intro hlead
      rw [List.head?_append_of_ne_nil _ h.filled] at hlead
      exact absurd hlead h.lead
    fraction := by
      rintro ds ⟨⟩
      exact ⟨areDigits_zero, List.cons_ne_nil _ _⟩
    exponent := nofun }
  float := Or.inl rfl
  value := by
    have hvalue : Text.digitsValue (digits ++ List.replicate zeros ('0' : CodePoint) ++
        List.replicate 1 ('0' : CodePoint)) = Text.digitsValue digits * Nat.pow 10 (zeros + 1) := by
      rw [List.append_assoc, List.replicate_append_replicate, Text.digitsValue_append,
        Text.digitsValue_zeros, List.length_replicate, Nat.add_zero]
    have hexponent : -1 + ((zeros + 1 : Nat) : Int) = exponent + 1 - digits.length := by omega
    calc decimalValue (Text.digitsValue (digits ++ List.replicate zeros ('0' : CodePoint) ++
          List.replicate 1 ('0' : CodePoint))) (-1)
      _ = decimalValue (Text.digitsValue digits) (exponent + 1 - digits.length) := by
        rw [hvalue, decimalValue_mul_pow, hexponent]

/-- Digits on either side of the point. -/
theorem laysOut_split (h : Leads digits) {exponent : Int} {whole : Nat} (hpos : 0 < whole)
    (hlt : whole < digits.length) (hexponent : exponent = whole - 1) :
    Numeral.LaysOut ⟨digits.take whole, some (digits.drop whole), none⟩ digits exponent where
  wellFormed := {
    whole := fun c hc => h.digits c (List.mem_of_mem_take hc)
    filled := by
      intro hnil
      have hlength := congrArg List.length hnil
      simp only [List.length_take, List.length_nil] at hlength
      omega
    lead := by
      intro hlead
      rw [List.head?_take, if_neg (Nat.pos_iff_ne_zero.1 hpos)] at hlead
      exact absurd hlead h.lead
    fraction := by
      rintro ds ⟨⟩
      refine ⟨fun c hc => h.digits c (List.mem_of_mem_drop hc), fun hnil => ?_⟩
      have hlength := congrArg List.length hnil
      simp only [List.length_drop, List.length_nil] at hlength
      omega
    exponent := nofun }
  float := Or.inl rfl
  value := by
    have hdigits : digits.take whole ++ digits.drop whole = digits :=
      List.take_append_drop whole digits
    have hscale : (0 - ((digits.drop whole).length : Nat) : Int) =
        exponent + 1 - digits.length := by
      rw [List.length_drop]
      omega
    exact congrArg₂ (fun t e => decimalValue (Text.digitsValue t) e) hdigits hscale

/-- One digit before the point, the others after it, and an exponent. -/
theorem laysOut_scientific {d : CodePoint} {ds : Text} (h : Leads (d :: ds)) (width : Nat)
    (exponent : Int) :
    Numeral.LaysOut ⟨[d], if ds = [] then none else some ds,
      some (decide (exponent < 0), DecimalLayout.zeroPadded width (Text.ofNat exponent.natAbs))⟩
      (d :: ds) exponent where
  wellFormed := {
    whole := by
      intro c hc
      exact h.digits c (by simp [List.mem_singleton.1 hc])
    filled := List.cons_ne_nil _ _
    lead := fun hlead => absurd hlead h.lead
    fraction := by
      intro fraction hfraction
      dsimp only at hfraction
      split at hfraction
      · cases hfraction
      · rename_i hne
        cases hfraction
        exact ⟨fun c hc => h.digits c (List.mem_cons_of_mem d hc), hne⟩
    exponent := by
      rintro e ⟨⟩
      exact ⟨areDigits_zeroPadded _ _, zeroPadded_ne_nil _ _⟩ }
  float := Or.inr rfl
  value := by
    have hfraction : (if ds = [] then none else some ds).getD [] = ds := by
      split
      · rename_i hnil
        rw [hnil]
        rfl
      · rfl
    have habs : (if exponent < 0 then -(exponent.natAbs : Int) else exponent.natAbs) =
        exponent := by
      split <;> omega
    simp only [Numeral.allDigits, Numeral.scale, Option.elim_some, hfraction, decide_eq_true_eq,
      digitsValue_zeroPadded, habs, List.length_cons]
    congr 1
    push_cast
    ring

/-- **The layout writes a numeral that has the value of the digits.** -/
theorem standard_write (h : Leads digits) (exponent : Int) :
    ∃ n : Numeral, DecimalLayout.standard.write digits exponent = n.text ∧
      n.LaysOut digits exponent := by
  unfold DecimalLayout.write
  split
  · split
    · rename_i hneg
      have hexponent : exponent = -(((-exponent).toNat - 1 : Nat) + 1) := by omega
      refine ⟨_, ?_, laysOut_below_one h hexponent⟩
      simp only [Numeral.text, Numeral.fractionText, Numeral.exponentText, Option.elim_some,
        Option.elim_none, List.append_nil, List.append_assoc]
      rfl
    · rename_i hnonneg
      dsimp only
      split
      · rename_i hle
        have hexponent : exponent =
            (exponent.toNat + 1 - digits.length : Nat) + digits.length - 1 := by omega
        exact ⟨_, rfl, laysOut_whole h hexponent⟩
      · rename_i hgt
        refine ⟨_, ?_, laysOut_split h (Nat.succ_pos exponent.toNat) (Nat.lt_of_not_le hgt)
          (by omega)⟩
        simp only [Numeral.text, Numeral.fractionText, Numeral.exponentText, Option.elim_some,
          Option.elim_none, List.append_nil, List.append_assoc]
        rfl
  · cases digits with
    | nil => exact absurd rfl h.filled
    | cons d ds =>
      refine ⟨_, ?_, laysOut_scientific h 2 exponent⟩
      have hsign : (if exponent < 0 then Text.ofString "-" else Text.ofString "+") =
          [if decide (exponent < 0) then ('-' : CodePoint) else '+'] := by
        by_cases hneg : exponent < 0 <;> simp [hneg, Text.ofString]
      dsimp only
      rw [hsign]
      cases ds with
      | nil => rfl
      | cons d' ds =>
        simp only [Numeral.text, Numeral.fractionText, Numeral.exponentText, reduceCtorEq, if_false,
          Option.elim_some, List.append_assoc]
        rfl

/-! ### Reading a number back -/

theorem Numeral.value_of_float {n : Numeral} (h : n.fraction.isSome ∨ n.exponent.isSome)
    (negative : Bool) : n.value negative =
      .float (Binary64.ofDecimal negative (Text.digitsValue n.allDigits) n.scale) := by
  obtain ⟨whole, fraction, exponent⟩ := n
  cases fraction with
  | some ds => rfl
  | none =>
    cases exponent with
    | some e => rfl
    | none => rcases h with h | h <;> cases h

/-- Zero has a numeral of its own. -/
theorem wellFormed_zero :
    Numeral.WellFormed ⟨[('0' : CodePoint)], some [('0' : CodePoint)], none⟩ where
  whole := areDigits_zero
  filled := List.cons_ne_nil _ _
  lead := fun _ => rfl
  fraction := by
    rintro ds ⟨⟩
    exact ⟨areDigits_zero, List.cons_ne_nil _ _⟩
  exponent := nofun

/-- The layout of a decimal, without the zeros at its end, has its value. -/
theorem standard_write_ofNat {c : Nat} (hpos : 0 < c) (grid : Int) :
    ∃ n : Numeral, n.WellFormed ∧ (n.fraction.isSome ∨ n.exponent.isSome) ∧
      DecimalLayout.standard.write (Binary64.significant (Text.ofNat c))
        (grid + (Text.ofNat c).length - 1) = n.text ∧
      decimalValue (Text.digitsValue n.allDigits) n.scale = decimalValue c grid := by
  obtain ⟨count, hsplit⟩ := Binary64.significant_append_zeros (Text.ofNat c)
  obtain ⟨n, htext, hn⟩ := standard_write (Binary64.leads_significant hpos)
    (grid + (Text.ofNat c).length - 1)
  have hvalue : c = Text.digitsValue (Binary64.significant (Text.ofNat c)) * Nat.pow 10 count := by
    have h := Text.digitsValue_ofNat c
    rw [hsplit, Text.digitsValue_append, Text.digitsValue_zeros, List.length_replicate] at h
    exact h.symm
  have hlength := congrArg List.length hsplit
  rw [List.length_append, List.length_replicate] at hlength
  refine ⟨n, hn.wellFormed, hn.float, htext, ?_⟩
  -- the zeros that were dropped from the digits are in the exponent
  calc decimalValue (Text.digitsValue n.allDigits) n.scale
    _ = decimalValue (Text.digitsValue (Binary64.significant (Text.ofNat c)))
        (grid + (Text.ofNat c).length - 1 + 1 - (Binary64.significant (Text.ofNat c)).length) :=
      hn.value
    _ = decimalValue (Text.digitsValue (Binary64.significant (Text.ofNat c))) (grid + count) := by
      congr 1
      omega
    _ = decimalValue c grid := by rw [← decimalValue_mul_pow, ← hvalue]

/-- A finite number is written as a numeral that stands for it. -/
theorem finiteText_eq (x : Finite64) :
    ∃ n : Numeral, n.WellFormed ∧ Binary64.finiteText x = signed x.negative n.text ∧
      n.value x.negative = .float (.finite x) := by
  unfold Binary64.finiteText signed
  dsimp only
  split
  · rename_i hzero
    refine ⟨_, wellFormed_zero, ?_, ?_⟩
    · split <;> rfl
    · -- a mantissa of zero has the smallest exponent
      obtain ⟨negative, mantissa, exponent, hlt, hle, hnormal⟩ := x
      obtain rfl : mantissa = 0 := hzero
      obtain rfl : exponent = 0 := hnormal.resolve_right (by decide)
      rfl
  · rename_i hx
    obtain ⟨hpos, hreads⟩ := Finite64.shortest_reads hx
    obtain ⟨n, hn, hfloat, htext, hvalue⟩ := standard_write_ofNat hpos x.shortest.2
    refine ⟨n, hn, ?_, ?_⟩
    · rw [← htext]
      split <;> rfl
    · rw [Numeral.value_of_float hfloat, Finite64.ofDecimal_of_reads hx (hvalue ▸ hreads)]

/-- **A floating-point number is read as it is written.** -/
theorem scalar?_float (x : Binary64) {rest : Text} (hrest : Ends rest) :
    scalar? (x.text numberNames ++ rest) = some (.float x, rest) := by
  cases x with
  | nan => exact scalar?_word (w := "NaN") (by simp [wordValues]) rest
  | infinity negative =>
    cases negative with
    | true => exact scalar?_word (w := "-Infinity") (by simp [wordValues]) rest
    | false => exact scalar?_word (w := "Infinity") (by simp [wordValues]) rest
  | finite x =>
    obtain ⟨n, hn, htext, hvalue⟩ := finiteText_eq x
    rw [Binary64.text, htext, scalar?_numeral hn _ hrest, hvalue]

end Json

end Issuance
