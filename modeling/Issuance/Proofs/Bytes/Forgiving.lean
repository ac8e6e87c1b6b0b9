import Issuance.Proofs.Bytes.Alphabet

/-!
# Issuance.Proofs.Bytes.Forgiving

**What the forgiving reader accepts.** It looks at nothing but the digits of a text, which are the
characters with a value, and at its padding; every other character it skips. Of these marks it
accepts a row that ends with a group of four digits, and any row with padding in the right place:
one mark of it after the third digit of a group, or two after the second (`decodeFrom_isSome_iff`).
What follows then does not matter.
-/

namespace Issuance

namespace Base64

/-- What a character is to the forgiving reader, if it is not skipped. -/
inductive Mark
  | digit
  | pad
  deriving DecidableEq

/-- The mark of a character. -/
def mark? (value? : CodePoint → Option Nat) (c : CodePoint) : Option Mark :=
  if c.value = 0x3D then some .pad else (value? c).map fun _ => .digit

/-- The marks of a text. -/
def marks (value? : CodePoint → Option Nat) (t : Text) : List Mark := t.filterMap (mark? value?)

/-- The number of digits among marks. -/
def digits (ms : List Mark) : Nat := ms.count .digit

@[simp] theorem digits_nil : digits [] = 0 := rfl

@[simp] theorem digits_digit (ms : List Mark) : digits (.digit :: ms) = digits ms + 1 :=
  List.count_cons_self

@[simp] theorem digits_pad (ms : List Mark) : digits (.pad :: ms) = digits ms :=
  List.count_cons_of_ne (by decide)

/-- Marks close the last group of four digits. -/
inductive Closes (ms : List Mark) : Prop
  /-- It has four digits. -/
  | whole (complete : digits ms % 4 = 0)
  /-- Padding completes a group after its third digit, or twice after the second. -/
  | padded {before after : List Mark} {n : Nat} (count : n = 1 ∨ n = 2)
    (split : ms = before ++ List.replicate n .pad ++ after)
    (complete : (digits before + n) % 4 = 0)

/-- Whether marks close the last group, when `place` digits of it and after them `pads` marks of
padding have been read. -/
def closesFrom (place pads : Nat) : List Mark → Bool
  | [] => place == 0
  | .digit :: ms => closesFrom ((place + 1) % 4) 0 ms
  | .pad :: ms =>
    if place < 2 then closesFrom place pads ms
    else if 4 ≤ place + (pads + 1) then true
    else closesFrom place (pads + 1) ms

/-- Marks close the last group, when `place` digits of it and after them `pads` marks of padding
have been read. -/
inductive ClosesAfter (place pads : Nat) (ms : List Mark) : Prop
  | whole (complete : (place + digits ms) % 4 = 0)
  | padded {before after : List Mark} {n : Nat} (count : n = 1 ∨ n = 2)
    (split : ms = before ++ List.replicate n .pad ++ after)
    (complete : (place + digits before + n) % 4 = 0)
  /-- Only the second mark of padding was missing. -/
  | last {after : List Mark} (read : place = 2 ∧ pads = 1) (split : ms = .pad :: after)

theorem closesAfter_nil {place pads : Nat} (hplace : place < 4) :
    ClosesAfter place pads [] ↔ place = 0 := by
  constructor
  · intro h
    cases h with
    | whole complete =>
      rw [digits_nil] at complete
      omega
    | padded count split => rcases count with rfl | rfl <;> simp at split
    | last _ split => cases split
  · rintro rfl
    exact .whole rfl

theorem closesAfter_digit {place pads : Nat} {ms : List Mark} :
    ClosesAfter place pads (.digit :: ms) ↔ ClosesAfter ((place + 1) % 4) 0 ms := by
  constructor
  · intro h
    cases h with
    | whole complete =>
      rw [digits_digit] at complete
      exact .whole (by omega)
    | @padded before after n count split complete =>
      cases before with
      | nil => rcases count with rfl | rfl <;> cases split
      | cons m before =>
        obtain ⟨rfl, hms⟩ := List.cons.inj split
        rw [digits_digit] at complete
        exact .padded count hms (by omega)
    | last _ split => cases split
  · intro h
    cases h with
    | whole complete =>
      refine .whole ?_
      rw [digits_digit]
      omega
    | @padded before after n count split complete =>
      have hsplit : .digit :: ms = .digit :: before ++ List.replicate n .pad ++ after :=
        congrArg (.digit :: ·) split
      refine .padded count hsplit ?_
      rw [digits_digit]
      omega
    | last read _ => exact absurd read.2 (by decide)

/-- Padding before the second digit of a group does not matter. -/
theorem closesAfter_pad_early {place pads : Nat} {ms : List Mark} (hplace : place < 2) :
    ClosesAfter place pads (.pad :: ms) ↔ ClosesAfter place pads ms := by
  constructor
  · intro h
    cases h with
    | whole complete => exact .whole (by rwa [digits_pad] at complete)
    | @padded before after n count split complete =>
      cases before with
      | nil =>
        rw [digits_nil] at complete
        omega
      | cons m before =>
        obtain ⟨rfl, hms⟩ := List.cons.inj split
        exact .padded count hms (by rwa [digits_pad] at complete)
    | last read _ => omega
  · intro h
    cases h with
    | whole complete => exact .whole (by rwa [digits_pad])
    | @padded before after n count split complete =>
      have hsplit : .pad :: ms = .pad :: before ++ List.replicate n .pad ++ after :=
        congrArg (.pad :: ·) split
      exact .padded count hsplit (by rwa [digits_pad])
    | last read _ => omega

/-- The first of two marks of padding leaves the second to be read. -/
theorem closesAfter_pad_first {ms : List Mark} :
    ClosesAfter 2 0 (.pad :: ms) ↔ ClosesAfter 2 1 ms := by
  constructor
  · intro h
    cases h with
    | whole complete => exact .whole (by rwa [digits_pad] at complete)
    | @padded before after n count split complete =>
      cases before with
      | nil =>
        rcases count with rfl | rfl
        · cases complete
        · exact .last ⟨rfl, rfl⟩ (List.cons.inj split).2
      | cons m before =>
        obtain ⟨rfl, hms⟩ := List.cons.inj split
        exact .padded count hms (by rwa [digits_pad] at complete)
    | last read _ => exact absurd read.2 (by decide)
  · intro h
    cases h with
    | whole complete => exact .whole (by rwa [digits_pad])
    | @padded before after n count split complete =>
      have hsplit : .pad :: ms = .pad :: before ++ List.replicate n .pad ++ after :=
        congrArg (.pad :: ·) split
      exact .padded count hsplit (by rwa [digits_pad])
    | @last after _ split =>
      have hsplit : .pad :: ms = [] ++ List.replicate 2 .pad ++ after :=
        congrArg (.pad :: ·) split
      exact .padded (Or.inr rfl) hsplit rfl

/-- Padding completes a group of three digits, and one of two that has been padded already. -/
theorem closesAfter_pad_last {place pads : Nat} {ms : List Mark}
    (h : place = 3 ∨ place = 2 ∧ pads = 1) : ClosesAfter place pads (.pad :: ms) := by
  rcases h with rfl | h
  · have hsplit : .pad :: ms = [] ++ List.replicate 1 .pad ++ ms := rfl
    exact .padded (Or.inl rfl) hsplit rfl
  · exact .last h rfl

theorem closesFrom_iff {place pads : Nat} {ms : List Mark} (hplace : place < 4)
    (hpads : pads = 0 ∨ place = 2 ∧ pads = 1) :
    closesFrom place pads ms = true ↔ ClosesAfter place pads ms := by
  induction ms generalizing place pads with
  | nil => rw [closesAfter_nil hplace, closesFrom, beq_iff_eq]
  | cons m ms ih =>
    cases m with
    | digit => rw [closesAfter_digit, closesFrom, ih (by omega) (Or.inl rfl)]
    | pad =>
      rw [closesFrom]
      split
      · rename_i hearly
        rw [closesAfter_pad_early hearly, ih hplace (by omega)]
      · split
        · exact iff_of_true rfl (closesAfter_pad_last (by omega))
        · have hfirst : place = 2 ∧ pads = 0 := by omega
          obtain ⟨rfl, rfl⟩ := hfirst
          rw [closesAfter_pad_first, ih (by decide) (Or.inr ⟨rfl, rfl⟩)]

/-- At the beginning nothing has been read. -/
theorem closesAfter_zero {ms : List Mark} : ClosesAfter 0 0 ms ↔ Closes ms := by
  constructor
  · intro h
    cases h with
    | whole complete => exact .whole (by rwa [Nat.zero_add] at complete)
    | padded count split complete =>
      exact .padded count split (by rwa [Nat.zero_add] at complete)
    | last read _ => exact absurd read.1 (by decide)
  · intro h
    cases h with
    | whole complete => exact .whole (by rwa [Nat.zero_add])
    | padded count split complete => exact .padded count split (by rwa [Nat.zero_add])

/-- What the forgiving reader accepts can be told from the marks. -/
theorem decodeFrom_isSome (value? : CodePoint → Option Nat) {place : Nat} (hplace : place < 4)
    (carry pads : Nat) (t : Text) :
    (decodeFrom value? place carry pads t).isSome = closesFrom place pads (marks value? t) := by
  induction t generalizing place carry pads with
  | nil =>
    unfold decodeFrom marks closesFrom
    by_cases h : place = 0 <;> simp [h]
  | cons c t ih =>
    rw [decodeFrom, marks, List.filterMap_cons, mark?]
    by_cases hpad : c.value = 0x3D
    · rw [if_pos hpad, if_pos hpad]
      show _ = closesFrom place pads (.pad :: marks value? t)
      rw [closesFrom, ← ih hplace carry pads, ← ih hplace carry (pads + 1)]
      split
      · rfl
      · split <;> rfl
    · rw [if_neg hpad, if_neg hpad]
      cases hvalue : value? c with
      | none => exact ih hplace carry pads
      | some v =>
        show _ = closesFrom ((place + 1) % 4) 0 (marks value? t)
        match place, hplace with
        | 0, _ => exact ih (by omega) _ 0
        | 1, _ | 2, _ | 3, _ => exact Option.isSome_map.trans (ih (by omega) _ 0)

/-- **The forgiving reader accepts a text whose marks close the last group.** -/
theorem decodeFrom_isSome_iff (value? : CodePoint → Option Nat) (t : Text) :
    (decodeFrom value? 0 0 0 t).isSome = true ↔ Closes (marks value? t) := by
  rw [decodeFrom_isSome value? (by decide), closesFrom_iff (by decide) (Or.inl rfl),
    closesAfter_zero]

/-- What is between two digits is skipped, and what follows the padding is not read. -/
example : decodeFrom urlValue? 0 0 0 "A!A==!A" = some [0] := by decide

/-- A segment is readable: it is ASCII, and with the padding restored it closes its last group. -/
structure IsReadable (t : Text) : Prop where
  ascii : t.trim.isAscii = true
  closes : Closes (marks eitherValue? (t.trim ++ padding t.trim))

theorem decodeUrl?_isOk_iff {t : Text} : (∃ bs, decodeUrl? t = .ok bs) ↔ IsReadable t := by
  unfold decodeUrl?
  dsimp only
  cases hascii : t.trim.isAscii with
  | false => exact iff_of_false nofun fun h => by cases hascii.symm.trans h.ascii
  | true =>
    have hcloses : IsReadable t ↔
        (decodeFrom eitherValue? 0 0 0 (t.trim ++ padding t.trim)).isSome = true := by
      rw [decodeFrom_isSome_iff]
      exact ⟨IsReadable.closes, fun h => ⟨hascii, h⟩⟩
    rw [hcloses]
    cases decodeFrom eitherValue? 0 0 0 (t.trim ++ padding t.trim) <;> simp

end Base64

end Issuance
