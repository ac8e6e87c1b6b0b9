import Issuance.Text.Blank

/-!
# Issuance.Proofs.Text.Pieces

Taking joined texts apart again. `Text.pieces` undoes `Text.joined` where no text has the separator
in it, `Text.lines` undoes `Text.ended` where no line has a break in it, and trimming undoes nothing
where there is no blank to trim. A line that is written behind a text continues the text's last line
(`lines_append_ended`).
-/

namespace Issuance

namespace Text

/-- A text without separators is one piece. -/
theorem pieces_of_none {p : CodePoint → Bool} {t : Text} (h : ∀ c ∈ t, p c = false) :
    pieces p t = [t] := by
  induction t with
  | nil => rfl
  | cons c t ih =>
    have hc : p c = false := h c List.mem_cons_self
    rw [pieces, hc, if_neg Bool.false_ne_true,
      ih fun d hd => h d (List.mem_cons_of_mem c hd)]

/-- The first piece ends at the first separator. -/
theorem pieces_append {p : CodePoint → Bool} {t : Text} (h : ∀ c ∈ t, p c = false)
    {separator : CodePoint} (hp : p separator = true) (rest : Text) :
    pieces p (t ++ separator :: rest) = t :: pieces p rest := by
  induction t with
  | nil => rw [List.nil_append, pieces, hp, if_pos rfl]
  | cons c t ih =>
    have hc : p c = false := h c List.mem_cons_self
    rw [List.cons_append, pieces, hc, if_neg Bool.false_ne_true,
      ih fun d hd => h d (List.mem_cons_of_mem c hd)]

/-- Texts that are joined by a separator which none of them has are the pieces. -/
theorem pieces_joined {p : CodePoint → Bool} {separator : CodePoint} (hp : p separator = true)
    {ts : List Text} (hne : ts ≠ []) (h : ∀ t ∈ ts, ∀ c ∈ t, p c = false) :
    pieces p (joined [separator] ts) = ts := by
  induction ts with
  | nil => exact absurd rfl hne
  | cons t ts ih =>
    have ht : ∀ c ∈ t, p c = false := h t List.mem_cons_self
    cases ts with
    | nil => exact pieces_of_none ht
    | cons u us =>
      rw [joined, List.append_assoc, List.singleton_append, pieces_append ht hp,
        ih (by simp) fun t' ht' => h t' (List.mem_cons_of_mem t ht')]

/-- Texts that follow each other have the pieces of both, but the last of the first and the first of
the second are one. -/
theorem pieces_append_pieces {p : CodePoint → Bool} {s t w v : Text} {ws vs : List Text}
    (hs : pieces p s = ws ++ [w]) (ht : pieces p t = v :: vs) :
    pieces p (s ++ t) = ws ++ (w ++ v) :: vs := by
  induction s generalizing ws w with
  | nil =>
    obtain ⟨rfl, h⟩ := List.append_inj' (show [] ++ [[]] = ws ++ [w] from hs) rfl
    cases h
    exact ht
  | cons c s ih =>
    rw [List.cons_append, pieces]
    rw [pieces] at hs
    have hus := (List.dropLast_concat_getLast (pieces_ne_nil p s)).symm
    generalize (pieces p s).dropLast = us, (pieces p s).getLast (pieces_ne_nil p s) = u at hus
    split at hs
    · rename_i hc
      rw [if_pos hc, ih hus]
      rw [hus, ← List.cons_append] at hs
      obtain ⟨rfl, h⟩ := List.append_inj' hs rfl
      cases h
      rfl
    · rename_i hc
      rw [if_neg hc, ih hus]
      rw [hus] at hs
      cases us with
      | nil =>
        obtain ⟨rfl, h⟩ := List.append_inj' (show [] ++ [c :: u] = ws ++ [w] from hs) rfl
        cases h
        rfl
      | cons u' us =>
        obtain ⟨rfl, h⟩ := List.append_inj' (show ((c :: u') :: us) ++ [u] = ws ++ [w] from hs) rfl
        cases h
        rfl

/-- There is one piece more than there are separators. -/
theorem length_pieces (p : CodePoint → Bool) (t : Text) :
    (pieces p t).length = List.countP p t + 1 := by
  induction t with
  | nil => rfl
  | cons c t ih =>
    simp only [pieces]
    split
    · rename_i hc
      simp [ih, hc]
    · rename_i hc
      split
      · rename_i h
        exact absurd h (pieces_ne_nil p t)
      · rename_i w ws h
        rw [h] at ih
        simpa [hc] using ih

/-- A text is taken apart into no more than what it is made of. -/
theorem mem_of_mem_pieces {p : CodePoint → Bool} {t piece : Text} {c : CodePoint}
    (hpiece : piece ∈ pieces p t) (hc : c ∈ piece) : c ∈ t := by
  induction t generalizing piece with
  | nil =>
    rw [List.mem_singleton.1 hpiece] at hc
    exact hc
  | cons d t ih =>
    rw [pieces] at hpiece
    split at hpiece
    · rcases List.mem_cons.1 hpiece with rfl | hpiece
      · cases hc
      · exact List.mem_cons_of_mem d (ih hpiece hc)
    · split at hpiece
      · rename_i hnil
        exact absurd hnil (pieces_ne_nil p t)
      · rename_i w ws hws
        rcases List.mem_cons.1 hpiece with rfl | hpiece
        · rcases List.mem_cons.1 hc with rfl | hc
          · exact List.mem_cons_self
          · exact List.mem_cons_of_mem d (ih (by rw [hws]; exact List.mem_cons_self) hc)
        · exact List.mem_cons_of_mem d (ih (by rw [hws]; exact List.mem_cons_of_mem w hpiece) hc)

/-- A piece has no separator in it. -/
theorem not_of_mem_pieces {p : CodePoint → Bool} {t piece : Text} (h : piece ∈ pieces p t) :
    ∀ c ∈ piece, p c = false := by
  induction t generalizing piece with
  | nil =>
    rw [List.mem_singleton.1 h]
    exact List.forall_mem_nil _
  | cons c t ih =>
    obtain ⟨w, ws, hws⟩ := List.exists_cons_of_ne_nil (pieces_ne_nil p t)
    rw [hws] at ih
    rw [pieces, hws] at h
    split at h
    · rcases List.mem_cons.1 h with rfl | h
      · exact List.forall_mem_nil _
      · exact ih h
    · rename_i hc
      rcases List.mem_cons.1 h with rfl | h
      · exact List.forall_mem_cons.2 ⟨Bool.eq_false_iff.2 hc, ih List.mem_cons_self⟩
      · exact ih (List.mem_cons_of_mem w h)

/-- The pieces, joined by the separator again, are the text. -/
theorem joined_pieces {p : CodePoint → Bool} {separator : CodePoint}
    (hp : ∀ c, p c = true → c = separator) (t : Text) :
    joined [separator] (pieces p t) = t := by
  induction t with
  | nil => rfl
  | cons c t ih =>
    obtain ⟨w, ws, hws⟩ := List.exists_cons_of_ne_nil (pieces_ne_nil p t)
    rw [hws] at ih
    rw [pieces, hws]
    split
    · rename_i hc
      rw [joined, ih, hp c hc]
      rfl
    · cases ws with
      | nil =>
        rw [joined] at ih ⊢
        rw [ih]
      | cons u us =>
        rw [joined] at ih ⊢
        rw [← ih]
        rfl

theorem joined_concat (separator : Text) {ts : List Text} (hne : ts ≠ []) (t : Text) :
    joined separator (ts ++ [t]) = joined separator ts ++ separator ++ t := by
  induction ts with
  | nil => exact absurd rfl hne
  | cons u us ih =>
    cases us with
    | nil => rfl
    | cons v vs =>
      rw [List.cons_append, List.cons_append, joined, ← List.cons_append, ih (by simp), joined]
      simp only [List.append_assoc]

/-- A text among those that are joined has its place. -/
theorem exists_joined_eq (separator : Text) (ts us : List Text) :
    ∃ before after, ∀ t, joined separator (ts ++ t :: us) = before ++ t ++ after := by
  induction ts with
  | nil =>
    cases us with
    | nil => exact ⟨[], [], fun t => (List.append_nil t).symm⟩
    | cons u us =>
      exact ⟨[], separator ++ joined separator (u :: us), fun t => by
        rw [List.nil_append, joined, List.nil_append, List.append_assoc]⟩
  | cons s ts ih =>
    obtain ⟨before, after, heq⟩ := ih
    refine ⟨s ++ separator ++ before, after, fun t => ?_⟩
    obtain ⟨u, rest, hrest⟩ := List.exists_cons_of_ne_nil (show ts ++ t :: us ≠ [] by simp)
    rw [List.cons_append, hrest, joined, ← hrest, heq]
    simp only [List.append_assoc]

theorem mem_joined {separator : Text} {ts : List Text} {c : CodePoint}
    (h : c ∈ joined separator ts) : c ∈ separator ∨ ∃ t ∈ ts, c ∈ t := by
  induction ts with
  | nil => cases h
  | cons t ts ih =>
    cases ts with
    | nil => exact Or.inr ⟨t, List.mem_cons_self, h⟩
    | cons u us =>
      rw [joined, List.mem_append, List.mem_append] at h
      rcases h with (h | h) | h
      · exact Or.inr ⟨t, List.mem_cons_self, h⟩
      · exact Or.inl h
      · rcases ih h with hs | ⟨t', ht', hc⟩
        · exact Or.inl hs
        · exact Or.inr ⟨t', List.mem_cons_of_mem t ht', hc⟩

theorem mem_joined_of_mem {separator : Text} {ts : List Text} {t : Text} {c : CodePoint}
    (ht : t ∈ ts) (hc : c ∈ t) : c ∈ joined separator ts := by
  obtain ⟨ts, us, rfl⟩ := List.append_of_mem ht
  obtain ⟨before, after, heq⟩ := exists_joined_eq separator ts us
  rw [heq]
  exact List.mem_append_left _ (List.mem_append_right _ hc)

/-! ### Trimming -/

/-- What is trimmed at the end is of the class. -/
theorem exists_trimEndBy_eq (p : CodePoint → Bool) (t : Text) :
    ∃ after, t = trimEndBy p t ++ after ∧ ∀ c ∈ after, p c = true := by
  induction t with
  | nil => exact ⟨[], rfl, fun _ h => nomatch h⟩
  | cons c t ih =>
    obtain ⟨after, heq, hafter⟩ := ih
    rw [trimEndBy]
    split
    · rename_i hnil
      rw [hnil, List.nil_append] at heq
      split
      · rename_i hc
        refine ⟨c :: t, rfl, fun d hd => ?_⟩
        rcases List.mem_cons.1 hd with rfl | hd
        · exact hc
        · exact hafter d (heq ▸ hd)
      · exact ⟨t, rfl, heq ▸ hafter⟩
    · exact ⟨after, congrArg (c :: ·) heq, hafter⟩

/-- Only blanks are trimmed. -/
theorem exists_trim_eq (t : Text) : ∃ before after : Text, t = before ++ trim t ++ after ∧
    ∀ c, c ∈ before ∨ c ∈ after → c.isBlank = true := by
  obtain ⟨after, heq, hafter⟩ := exists_trimEndBy_eq CodePoint.isBlank
    (t.dropWhile CodePoint.isBlank)
  refine ⟨t.takeWhile CodePoint.isBlank, after, ?_, fun c hc => ?_⟩
  · rw [List.append_assoc]
    unfold trim trimBy
    rw [← heq, List.takeWhile_append_dropWhile]
  · rcases hc with hc | hc
    · exact List.all_eq_true.1 List.all_takeWhile c hc
    · exact hafter c hc

theorem mem_of_mem_trim {t : Text} {c : CodePoint} (h : c ∈ trim t) : c ∈ t := by
  obtain ⟨before, after, heq, -⟩ := exists_trim_eq t
  rw [heq]
  exact List.mem_append_left after (List.mem_append_right before h)

theorem mem_trim_or_isBlank {t : Text} {c : CodePoint} (h : c ∈ t) :
    c ∈ trim t ∨ c.isBlank = true := by
  obtain ⟨before, after, heq, hblank⟩ := exists_trim_eq t
  rw [heq] at h
  rcases List.mem_append.1 h with h | h
  · rcases List.mem_append.1 h with h | h
    · exact Or.inr (hblank c (Or.inl h))
    · exact Or.inl h
  · exact Or.inr (hblank c (Or.inr h))

theorem trimEndBy_of_none {p : CodePoint → Bool} {t : Text} (h : ∀ c ∈ t, p c = false) :
    trimEndBy p t = t := by
  induction t with
  | nil => rfl
  | cons c t ih =>
    have hc : p c = false := h c List.mem_cons_self
    rw [trimEndBy, ih fun d hd => h d (List.mem_cons_of_mem c hd)]
    cases t with
    | nil => rw [hc]; rfl
    | cons d t => rfl

theorem dropWhile_of_none {p : CodePoint → Bool} {t : Text} (h : ∀ c ∈ t, p c = false) :
    t.dropWhile p = t := by
  cases t with
  | nil => rfl
  | cons c t => rw [List.dropWhile_cons_of_neg (by simp [h c List.mem_cons_self])]

/-- A text without blanks is trimmed as it is. -/
theorem trim_of_none {t : Text} (h : ∀ c ∈ t, c.isBlank = false) : t.trim = t := by
  unfold trim trimBy
  rw [dropWhile_of_none h, trimEndBy_of_none h]

theorem trimEndBy_cons {p : CodePoint → Bool} {c : CodePoint} (hc : p c = false) (t : Text) :
    trimEndBy p (c :: t) = c :: trimEndBy p t := by
  simp only [trimEndBy]
  split
  · rename_i h
    simp [h, hc]
  · rfl

/-- Nothing is trimmed from a text whose last code point stays. -/
theorem trimEndBy_concat_of_neg {p : CodePoint → Bool} {c : CodePoint} (hc : p c = false)
    (t : Text) : trimEndBy p (t ++ [c]) = t ++ [c] := by
  induction t with
  | nil => exact trimEndBy_cons hc []
  | cons d t ih =>
    rw [List.cons_append, trimEndBy, ih]
    cases t with
    | nil => rfl
    | cons e t => rfl

/-- Nothing is trimmed from a text with a blank at neither end. -/
theorem trim_of_ends {c d : CodePoint} (hc : c.isBlank = false) (hd : d.isBlank = false)
    (t : Text) : trim (c :: t ++ [d]) = c :: t ++ [d] := by
  unfold trim trimBy
  rw [List.cons_append, List.dropWhile_cons_of_neg (by simp [hc]), ← List.cons_append,
    trimEndBy_concat_of_neg hd]

theorem trimEndBy_trimEndBy (p : CodePoint → Bool) (t : Text) :
    trimEndBy p (trimEndBy p t) = trimEndBy p t := by
  induction t with
  | nil => rfl
  | cons c t ih =>
    cases hc : p c with
    | false => rw [trimEndBy_cons hc, trimEndBy_cons hc, ih]
    | true =>
      simp only [trimEndBy, hc, if_true]
      cases ht : trimEndBy p t with
      | nil => rfl
      | cons d u =>
        rw [ht] at ih
        simp only [trimEndBy] at ih ⊢
        rw [ih]

/-- Trimming twice is trimming once. -/
theorem trim_trim (t : Text) : t.trim.trim = t.trim := by
  unfold trim trimBy
  cases h : t.dropWhile CodePoint.isBlank with
  | nil => rfl
  | cons c u =>
    have hc : c.isBlank = false := by
      have hhead := List.head?_dropWhile_not CodePoint.isBlank t
      simpa [h] using hhead
    rw [trimEndBy_cons hc, List.dropWhile_cons_of_neg (by simp [hc]), trimEndBy_cons hc,
      trimEndBy_trimEndBy]

/-- What is blank at the beginning is trimmed. -/
theorem trim_append {s : Text} (h : ∀ c ∈ s, c.isBlank = true) (t : Text) :
    (s ++ t).trim = t.trim := by
  unfold trim trimBy
  rw [List.dropWhile_append_of_pos h]

/-- Nothing is left exactly of what is all blank. -/
theorem trim_eq_nil_iff {t : Text} : t.trim = [] ↔ ∀ c ∈ t, c.isBlank = true := by
  constructor
  · intro h c hc
    rcases mem_trim_or_isBlank hc with hc | hc
    · rw [h] at hc
      cases hc
    · exact hc
  · intro h
    have htrim := trim_append h []
    rwa [List.append_nil] at htrim

theorem trimEndBy_of_all {p : CodePoint → Bool} {t : Text} (h : ∀ c ∈ t, p c = true) :
    trimEndBy p t = [] := by
  induction t with
  | nil => rfl
  | cons c t ih =>
    rw [trimEndBy, ih fun d hd => h d (List.mem_cons_of_mem c hd), h c List.mem_cons_self]
    rfl

/-- What is of the class at the end is trimmed. -/
theorem trimEndBy_append {p : CodePoint → Bool} {u : Text} (h : ∀ c ∈ u, p c = true) (t : Text) :
    trimEndBy p (t ++ u) = trimEndBy p t := by
  induction t with
  | nil => exact trimEndBy_of_all h
  | cons c t ih => rw [List.cons_append, trimEndBy, trimEndBy, ih]

/-- Blanks around a text without blanks are trimmed. -/
theorem trim_surrounded {before t after : Text} (hbefore : ∀ c ∈ before, c.isBlank = true)
    (ht : ∀ c ∈ t, c.isBlank = false) (hafter : ∀ c ∈ after, c.isBlank = true) :
    trim (before ++ t ++ after) = t := by
  rw [List.append_assoc, trim_append hbefore]
  cases t with
  | nil => exact trim_eq_nil_iff.2 hafter
  | cons c t =>
    unfold trim trimBy
    rw [List.cons_append, List.dropWhile_cons_of_neg (by simp [ht c List.mem_cons_self]),
      ← List.cons_append, trimEndBy_append hafter, trimEndBy_of_none ht]

/-- A line is its text without the break. -/
theorem trim_concat {t : Text} {c : CodePoint} (h : ∀ d ∈ t, d.isBlank = false)
    (hc : c.isBlank = true) : trim (t ++ [c]) = t :=
  trim_surrounded (List.forall_mem_nil _) h (List.forall_mem_singleton.2 hc)

/-! ### Lines -/

/-- Lines without carriage returns are unified already. -/
theorem unifyLineBreaks_of_none {t : Text} (h : ∀ c ∈ t, c.value ≠ 0x0D) :
    unifyLineBreaks t = t := by
  induction t with
  | nil => rfl
  | cons c t ih =>
    have hc := h c List.mem_cons_self
    have ht := ih fun d hd => h d (List.mem_cons_of_mem c hd)
    cases t with
    | nil => rw [unifyLineBreaks, if_neg hc]
    | cons d t => rw [unifyLineBreaks, if_neg hc, ht]

/-- Texts that follow each other are unified each on its own, unless a line feed begins the second. -/
theorem unifyLineBreaks_append {s t : Text} (h : ∀ d, t.head? = some d → d.value ≠ 0x0A) :
    unifyLineBreaks (s ++ t) = unifyLineBreaks s ++ unifyLineBreaks t := by
  fun_induction unifyLineBreaks s with
  | case1 => rfl
  | case2 c hc =>
    cases t with
    | nil => exact if_pos hc
    | cons d t => rw [List.singleton_append, unifyLineBreaks, if_pos hc, if_neg (h d rfl)]; rfl
  | case3 c hc =>
    cases t with
    | nil => exact if_neg hc
    | cons d t => rw [List.singleton_append, unifyLineBreaks, if_neg hc]; rfl
  | case4 c d s hc hd ih =>
    rw [List.cons_append, List.cons_append, unifyLineBreaks, if_pos hc, if_pos hd, ih]
    rfl
  | case5 c d s hc hd ih =>
    rw [List.cons_append, List.cons_append, unifyLineBreaks, if_pos hc, if_neg hd,
      ← List.cons_append, ih]
    rfl
  | case6 c d s hc ih =>
    rw [List.cons_append, List.cons_append, unifyLineBreaks, if_neg hc, ← List.cons_append, ih]
    rfl

/-- A text without breaks is one line. -/
theorem lines_of_visible {t : Text} (h : ∀ c ∈ t, 0x20 ≤ c.value) : Text.lines t = [t] := by
  have hnone : ∀ n < 0x20, ∀ c ∈ t, c.value ≠ n := by
    intro n hn c hc
    have hvisible := h c hc
    omega
  unfold Text.lines
  rw [unifyLineBreaks_of_none (hnone 0x0D (by decide))]
  exact pieces_of_none fun c hc => beq_false_of_ne (hnone 0x0A (by decide) c hc)

/-- Lines, each with its end. -/
def ended (lines : List Text) : Text := lines.flatMap (· ++ [CodePoint.ofNat 0x0A])

theorem ended_concat (lines : List Text) (line : Text) :
    ended (lines ++ [line]) = ended lines ++ (line ++ [CodePoint.ofNat 0x0A]) := by
  unfold ended
  rw [List.flatMap_append, List.flatMap_singleton]

/-- Lines without breaks are the lines of their text; nothing follows the last break. -/
theorem lines_ended {lines : List Text} (h : ∀ line ∈ lines, ∀ c ∈ line, 0x20 ≤ c.value) :
    Text.lines (ended lines) = lines ++ [[]] := by
  have hreturn : ∀ c ∈ ended lines, c.value ≠ 0x0D := by
    intro c hc
    obtain ⟨line, hline, hc⟩ := List.mem_flatMap.1 hc
    rcases List.mem_append.1 hc with hc | hc
    · have hvisible := h line hline c hc
      omega
    · rw [List.mem_singleton.1 hc]
      decide
  unfold Text.lines
  rw [unifyLineBreaks_of_none hreturn]
  clear hreturn
  induction lines with
  | nil => rfl
  | cons line lines ih =>
    have hline : ∀ c ∈ line, (c.value == 0x0A) = false := by
      intro c hc
      have hvisible := h line List.mem_cons_self c hc
      exact beq_false_of_ne (by omega)
    have htext : ended (line :: lines) = line ++ CodePoint.ofNat 0x0A :: ended lines := by
      unfold ended
      rw [List.flatMap_cons, List.append_assoc]
      rfl
    rw [htext, pieces_append hline (by decide), ih fun l hl => h l (List.mem_cons_of_mem line hl)]
    rfl

/-- A line with its end continues the last line of the text before it, and begins another. -/
theorem lines_append_ended {t line last : Text} {before : List Text}
    (ht : Text.lines t = before ++ [last]) (hne : line ≠ []) (h : ∀ c ∈ line, 0x20 ≤ c.value) :
    Text.lines (t ++ ended [line]) = before ++ [last ++ line, []] := by
  have hended : Text.lines (ended [line]) = [line] ++ [[]] :=
    lines_ended (List.forall_mem_singleton.2 h)
  obtain ⟨c, line, rfl⟩ := List.exists_cons_of_ne_nil hne
  have hhead : ∀ d, (ended [c :: line]).head? = some d → d.value ≠ 0x0A := by
    intro d hd
    obtain rfl : c = d := Option.some.inj hd
    have hvisible := h c List.mem_cons_self
    omega
  unfold Text.lines at ht hended ⊢
  rw [unifyLineBreaks_append hhead]
  exact pieces_append_pieces ht hended

end Text

end Issuance
