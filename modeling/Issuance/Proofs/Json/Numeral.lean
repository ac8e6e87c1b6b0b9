import Issuance.Json.Reader
import Issuance.Json.Writer
import Issuance.Proofs.Json.Shortest

/-!
# Issuance.Proofs.Json.Numeral

**Numbers are read as they are written.** A `Numeral` is a row of digits with a fraction and an
exponent that may be missing; its text is read as its value, whatever ends the text
(`scalar?_numeral`). Integers are written as numerals without either (`scalar?_ofInt`).
-/

namespace Issuance

namespace Json

/-- What may follow a value: nothing, a comma, or the end of the list or object that it is in. -/
def Ends (rest : Text) : Prop := ∀ c ∈ rest.head?, c = ',' ∨ c = ']' ∨ c = '}'

theorem ends_nil : Ends [] := nofun

theorem ends_cons {c : CodePoint} (h : c = ',' ∨ c = ']' ∨ c = '}') (rest : Text) :
    Ends (c :: rest) := by
  intro d hd
  obtain rfl : c = d := Option.some.inj hd
  exact h

/-! ### Rows of digits -/

/-- A row of digits ends before whatever is no digit. -/
theorem digits_append {ds rest : Text} (hds : Text.AreDigits ds)
    (hrest : ∀ c ∈ rest.head?, c.isDigit = false) : digits (ds ++ rest) = (ds, rest) := by
  have hstop : rest.takeWhile CodePoint.isDigit = [] ∧ rest.dropWhile CodePoint.isDigit = rest := by
    cases rest with
    | nil => exact ⟨rfl, rfl⟩
    | cons c rest =>
      have hc := hrest c rfl
      exact ⟨List.takeWhile_cons_of_neg (by simp [hc]), List.dropWhile_cons_of_neg (by simp [hc])⟩
  unfold digits
  rw [List.takeWhile_append_of_pos hds, List.dropWhile_append_of_pos hds, hstop.1, hstop.2,
    List.append_nil]

theorem Ends.not_digit {rest : Text} (h : Ends rest) : ∀ c ∈ rest.head?, c.isDigit = false := by
  intro c hc
  rcases h c hc with rfl | rfl | rfl <;> decide

/-! ### Numerals -/

/-- The parts of a numeral without its sign: the digits before the point, those after it, and the
exponent, which says whether it is negative. -/
structure Numeral where
  whole : Text
  fraction : Option Text
  exponent : Option (Bool × Text)

namespace Numeral

/-- The fraction with its point. -/
def fractionText (n : Numeral) : Text := n.fraction.elim [] fun ds => ('.' : CodePoint) :: ds

/-- The exponent with its mark and its sign. -/
def exponentText (n : Numeral) : Text :=
  n.exponent.elim [] fun e =>
    ('e' : CodePoint) :: (if e.1 then ('-' : CodePoint) else '+') :: e.2

/-- The numeral as it is written. -/
def text (n : Numeral) : Text := n.whole ++ (n.fractionText ++ n.exponentText)

/-- All digits, with the exponent of the last. -/
def allDigits (n : Numeral) : Text := n.whole ++ n.fraction.getD []

def scale (n : Numeral) : Int :=
  (n.exponent.elim 0 fun e => if e.1 then -(Text.digitsValue e.2 : Int) else Text.digitsValue e.2) -
    (n.fraction.getD []).length

/-- What the numeral stands for. -/
def value (negative : Bool) (n : Numeral) : Json :=
  match n.fraction, n.exponent with
  | none, none =>
    let v : Int := Text.digitsValue n.whole
    .int (if negative then -v else v)
  | _, _ => .float (Binary64.ofDecimal negative (Text.digitsValue n.allDigits) n.scale)

/-- A numeral by the grammar: its rows of digits are not empty, and only a lone zero leads. -/
structure WellFormed (n : Numeral) : Prop where
  whole : Text.AreDigits n.whole
  filled : n.whole ≠ []
  lead : n.whole.head? = some ('0' : CodePoint) → n.whole = [('0' : CodePoint)]
  fraction : ∀ ds ∈ n.fraction, Text.AreDigits ds ∧ ds ≠ []
  exponent : ∀ e ∈ n.exponent, Text.AreDigits e.2 ∧ e.2 ≠ []

end Numeral

theorem wholePart?_append {whole rest : Text} (hdigits : Text.AreDigits whole) (hne : whole ≠ [])
    (hlead : whole.head? = some ('0' : CodePoint) → whole = [('0' : CodePoint)])
    (hrest : ∀ c ∈ rest.head?, c.isDigit = false) :
    wholePart? (whole ++ rest) = some (whole, rest) := by
  unfold wholePart?
  rw [digits_append hdigits hrest]
  cases whole with
  | nil => exact absurd rfl hne
  | cons d ds =>
    dsimp only
    split
    · rename_i hzero
      obtain ⟨-, rfl⟩ := List.cons.inj (hlead (by rw [hzero]; rfl))
      rfl
    · rfl

theorem fraction?_append {ds rest : Text} (hds : Text.AreDigits ds) (hne : ds ≠ [])
    (hrest : ∀ c ∈ rest.head?, c.isDigit = false) :
    fraction? (('.' : CodePoint) :: ds ++ rest) = some (ds, rest) := by
  unfold fraction?
  rw [List.cons_append]
  dsimp only
  rw [if_pos rfl, digits_append hds hrest]
  cases ds with
  | nil => exact absurd rfl hne
  | cons d ds => rfl

theorem exponent?_append {ds rest : Text} (hds : Text.AreDigits ds) (hne : ds ≠ [])
    (hrest : ∀ c ∈ rest.head?, c.isDigit = false) (negative : Bool) :
    exponent? (('e' : CodePoint) :: (if negative then ('-' : CodePoint) else '+') :: ds ++ rest) =
      some (if negative then -(Text.digitsValue ds : Int) else Text.digitsValue ds, rest) := by
  have hplus : ('+' : CodePoint) ≠ '-' := by decide
  unfold exponent?
  cases negative with
  | true =>
    simp only [List.cons_append, if_true, true_or, digits_append hds hrest]
  | false =>
    simp only [List.cons_append, Bool.false_eq_true, if_true, if_false, true_or, hplus,
      digits_append hds hrest]

theorem fraction?_of_ne {rest : Text} (h : rest.head? ≠ some ('.' : CodePoint)) :
    fraction? rest = none := by
  cases rest with
  | nil => rfl
  | cons c rest =>
    unfold fraction?
    dsimp only
    rw [if_neg fun hc => h (by rw [hc]; rfl)]

theorem exponent?_of_ends {rest : Text} (h : Ends rest) : exponent? rest = none := by
  cases rest with
  | nil => rfl
  | cons c rest =>
    unfold exponent?
    dsimp only
    rw [if_neg]
    rcases h c rfl with rfl | rfl | rfl <;> decide

namespace Numeral

/-- What follows the fraction begins with no digit and no point. -/
theorem exponentText_append (n : Numeral) {rest : Text} (hrest : Ends rest) :
    (∀ c ∈ (n.exponentText ++ rest).head?, c.isDigit = false) ∧
      (n.exponentText ++ rest).head? ≠ some ('.' : CodePoint) := by
  unfold exponentText
  cases n.exponent with
  | none =>
    refine ⟨hrest.not_digit, fun hc => ?_⟩
    rcases hrest _ hc with h | h | h <;> exact absurd h (by decide)
  | some e =>
    refine ⟨fun c hc => ?_, nofun⟩
    cases hc
    decide

/-- What follows the whole part begins with no digit. -/
theorem fractionText_append (n : Numeral) {rest : Text} (hrest : Ends rest) :
    ∀ c ∈ (n.fractionText ++ (n.exponentText ++ rest)).head?, c.isDigit = false := by
  unfold fractionText
  cases n.fraction with
  | none => exact (n.exponentText_append hrest).1
  | some ds =>
    intro c hc
    cases hc
    decide

/-- The exponent is read off what follows the fraction, if there is one. -/
theorem exponent?_text {n : Numeral} (h : n.WellFormed) {rest : Text} (hrest : Ends rest) :
    (exponent? (n.exponentText ++ rest)).elim (none, n.exponentText ++ rest)
        (fun (e, r) => (some e, r)) =
      (n.exponent.map fun e =>
        if e.1 then -(Text.digitsValue e.2 : Int) else Text.digitsValue e.2, rest) := by
  have hexponent := h.exponent
  unfold exponentText
  cases he : n.exponent with
  | none =>
    show (exponent? rest).elim (none, rest) _ = _
    rw [exponent?_of_ends hrest]
    rfl
  | some e =>
    obtain ⟨hds, hne⟩ := hexponent e he
    have hread := exponent?_append hds hne hrest.not_digit e.1
    simp only [Option.elim_some, hread, Option.map_some]

/-- The fraction is read off what follows the whole part, if there is one. -/
theorem fraction?_text {n : Numeral} (h : n.WellFormed) {rest : Text} (hrest : Ends rest) :
    (fraction? (n.fractionText ++ (n.exponentText ++ rest))).elim
        (none, n.fractionText ++ (n.exponentText ++ rest)) (fun (ds, r) => (some ds, r)) =
      (n.fraction, n.exponentText ++ rest) := by
  have hfraction := h.fraction
  obtain ⟨hdigit, hpoint⟩ := n.exponentText_append hrest
  unfold fractionText
  cases hf : n.fraction with
  | none =>
    show (fraction? (n.exponentText ++ rest)).elim (none, n.exponentText ++ rest) _ = _
    rw [fraction?_of_ne hpoint]
    rfl
  | some ds =>
    obtain ⟨hds, hne⟩ := hfraction ds hf
    have hread := fraction?_append hds hne hdigit
    simp only [Option.elim_some, hread]

/-- **A numeral is read as its value.** -/
theorem magnitude?_text {n : Numeral} (h : n.WellFormed) (negative : Bool) {rest : Text}
    (hrest : Ends rest) : magnitude? negative (n.text ++ rest) = some (n.value negative, rest) := by
  have hwhole : wholePart? (n.text ++ rest) =
      some (n.whole, n.fractionText ++ (n.exponentText ++ rest)) := by
    unfold text
    rw [List.append_assoc, List.append_assoc]
    exact wholePart?_append h.whole h.filled h.lead (n.fractionText_append hrest)
  unfold magnitude?
  rw [hwhole]
  dsimp only
  rw [fraction?_text h hrest]
  dsimp only
  rw [exponent?_text h hrest]
  dsimp only
  unfold value allDigits scale
  obtain ⟨whole, frac, exp⟩ := n
  cases frac with
  | none =>
    cases exp with
    | none => rfl
    | some e => rfl
  | some f =>
    cases exp with
    | none => rfl
    | some e => rfl

end Numeral

/-- What stands for a value with a sign before it. -/
def signed (negative : Bool) (t : Text) : Text :=
  (if negative then [('-' : CodePoint)] else []) ++ t

theorem startsWith_false {t word : Text} {k : Nat} {c d : CodePoint} (ht : t[k]? = some c)
    (hword : word[k]? = some d) (hne : c ≠ d) : t.startsWith word = false := by
  induction word generalizing t k with
  | nil => cases hword
  | cons e word ih =>
    cases t with
    | nil => rfl
    | cons b t =>
      rw [Text.startsWith]
      cases k with
      | zero =>
        obtain rfl := Option.some.inj ht
        obtain rfl := Option.some.inj hword
        rw [beq_false_of_ne hne, Bool.false_and]
      | succ k => rw [ih (k := k) ht hword, Bool.and_false]

theorem no_word_of_startsWith {t : Text} (h : ∀ m ∈ wordValues, t.startsWith m.1 = false) :
    (wordValues.findSome? fun (w, v) => (afterWord? w t).map (v, ·)) = none := by
  rw [List.findSome?_eq_none_iff]
  rintro ⟨w, v⟩ hm
  dsimp only
  unfold afterWord?
  rw [h _ hm]
  rfl

/-- A text that has a digit for its first or its second code point is no word. -/
theorem no_word {t : Text} {k : Nat} (hk : k < 2) {c : CodePoint} (ht : t[k]? = some c)
    (hc : c.isDigit = true) :
    (wordValues.findSome? fun (w, v) => (afterWord? w t).map (v, ·)) = none := by
  have hwords : ∀ m ∈ wordValues, ∀ k < 2, ∀ d ∈ m.1[k]?, d.isDigit = false := by decide
  have hfilled : ∀ m ∈ wordValues, ∀ k < 2, (m.1[k]?).isSome := by decide
  refine no_word_of_startsWith fun m hm => ?_
  obtain ⟨d, hd⟩ := Option.isSome_iff_exists.1 (hfilled m hm k hk)
  have hne : c ≠ d := by
    rintro rfl
    rw [hwords m hm k hk c hd] at hc
    cases hc
  exact startsWith_false ht hd hne

/-- A word is read as its value, whatever follows it. -/
theorem scalar?_word {w : Text} {v : Json} (h : (w, v) ∈ wordValues) (rest : Text) :
    scalar? (w ++ rest) = some (v, rest) := by
  simp only [wordValues, List.mem_cons, List.not_mem_nil, or_false, Prod.mk.injEq] at h
  rcases h with ⟨rfl, rfl⟩ | ⟨rfl, rfl⟩ | ⟨rfl, rfl⟩ | ⟨rfl, rfl⟩ | ⟨rfl, rfl⟩ | ⟨rfl, rfl⟩
  all_goals cases rest <;> rfl

theorem scalar?_digit {c : CodePoint} (hc : c.isDigit = true) (t : Text) :
    scalar? (c :: t) = magnitude? false (c :: t) := by
  have hminus : c ≠ '-' := by
    rintro rfl
    cases hc
  unfold scalar?
  rw [no_word (k := 0) (by decide) rfl hc]
  dsimp only
  rw [if_neg hminus]

theorem scalar?_minus {c : CodePoint} (hc : c.isDigit = true) (t : Text) :
    scalar? ('-' :: c :: t) = magnitude? true (c :: t) := by
  unfold scalar?
  rw [no_word (k := 1) (by decide) rfl hc]
  dsimp only
  rw [if_pos rfl]

/-- A numeral with its sign is read as its value. -/
theorem scalar?_numeral {n : Numeral} (h : n.WellFormed) (negative : Bool) {rest : Text}
    (hrest : Ends rest) :
    scalar? (signed negative n.text ++ rest) = some (n.value negative, rest) := by
  have hread := n.magnitude?_text h negative hrest
  obtain ⟨c, u, hwhole⟩ := List.exists_cons_of_ne_nil h.filled
  have hc : c.isDigit = true := h.whole c (by rw [hwhole]; exact List.mem_cons_self)
  have htext : n.text ++ rest = c :: (u ++ (n.fractionText ++ n.exponentText) ++ rest) := by
    unfold Numeral.text
    rw [hwhole]
    rfl
  cases negative with
  | true =>
    show scalar? (('-' : CodePoint) :: (n.text ++ rest)) = _
    rw [htext, scalar?_minus hc, ← htext]
    exact hread
  | false =>
    show scalar? (n.text ++ rest) = _
    rw [htext, scalar?_digit hc, ← htext]
    exact hread

/-! ### Integers -/

/-- Decimal notation is a numeral without fraction and exponent. -/
theorem wellFormed_ofNat (m : Nat) : Numeral.WellFormed ⟨Text.ofNat m, none, none⟩ where
  whole := Text.areDigits_ofNat m
  filled := Text.ofNat_ne_nil m
  lead := by
    intro hlead
    rcases Nat.eq_zero_or_pos m with rfl | hpos
    · show Text.ofNat 0 = _
      rw [Text.ofNat]
      rfl
    · exact absurd hlead (Text.head?_ofNat hpos)
  fraction := nofun
  exponent := nofun

theorem scalar?_ofInt (i : Int) {rest : Text} (hrest : Ends rest) :
    scalar? (Text.ofInt i ++ rest) = some (.int i, rest) := by
  have hread : ∀ (m : Nat) (negative : Bool), scalar? (signed negative (Text.ofNat m) ++ rest) =
      some (.int (if negative then -(m : Int) else m), rest) := by
    intro m negative
    have htext : Numeral.text ⟨Text.ofNat m, none, none⟩ = Text.ofNat m := List.append_nil _
    have h := scalar?_numeral (wellFormed_ofNat m) negative hrest
    rw [htext] at h
    rw [h]
    unfold Numeral.value
    dsimp only
    rw [Text.digitsValue_ofNat]
  cases i with
  | ofNat m => exact hread m false
  | negSucc m => exact hread (m + 1) true

end Json

end Issuance
