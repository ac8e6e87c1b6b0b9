import Issuance.Proofs.Bytes.Hex
import Issuance.Proofs.Json.Layout
import Issuance.Proofs.Json.Sorted

/-!
# Issuance.Proofs.Json.RoundTrip

**What is written is read back.** A value in which no object has a key twice is read back from its
text as it was, members in their order (`read?_write`). The canonical text is that of the sorted
value, and so it is read as the sorted value (`read?_canonical`).

The reader's bound on its depth is met by the length of the text: each call is made on a text that
is shorter than the one before.
-/

namespace Issuance

namespace Json

/-! ### Strings -/

/-- Four digits name the number that they were made of. -/
theorem hexUnit?_fixed {n : Nat} (h : n < 0x10000) :
    ∃ p q r s, Hex.fixed 4 n = [p, q, r, s] ∧ hexUnit? p q r s = some n := by
  refine ⟨_, _, _, _, rfl, ?_⟩
  have hdigit : ∀ m, (CodePoint.ofHexDigit (m % 16)).hexDigit? = some (m % 16) :=
    fun m => Hex.hexDigit?_ofHexDigit _ (Nat.mod_lt m (by decide))
  simp only [hexUnit?, hdigit, Option.some.injEq]
  omega

/-- A short escape is a backslash and a letter that stands for the code point. -/
theorem shortEscape?_eq_some {c : CodePoint} {e : Text} (h : shortEscape? c = some e) :
    ∃ x : CodePoint, e = [('\\' : CodePoint), x] ∧ x ≠ 'u' ∧ plainEscape? x = some c := by
  have hcontrol : ∀ {n : Nat}, c.value = n → c = CodePoint.ofNat n := by
    rintro n rfl
    exact (CodePoint.ofNat_value c).symm
  unfold shortEscape? at h
  split at h
  · rename_i hc
    cases h
    exact ⟨'"', rfl, by decide, by rw [hc]; rfl⟩
  · split at h
    · rename_i hc
      cases h
      exact ⟨'\\', rfl, by decide, by rw [hc]; rfl⟩
    · split at h
      · rename_i hc
        cases h
        exact ⟨'b', rfl, by decide, by rw [hcontrol hc]; rfl⟩
      · split at h
        · rename_i hc
          cases h
          exact ⟨'f', rfl, by decide, by rw [hcontrol hc]; rfl⟩
        · split at h
          · rename_i hc
            cases h
            exact ⟨'n', rfl, by decide, by rw [hcontrol hc]; rfl⟩
          · split at h
            · rename_i hc
              cases h
              exact ⟨'r', rfl, by decide, by rw [hcontrol hc]; rfl⟩
            · split at h
              · rename_i hc
                cases h
                exact ⟨'t', rfl, by decide, by rw [hcontrol hc]; rfl⟩
              · cases h

theorem stringBody_escape {x c : CodePoint} (hx : x ≠ 'u') (hc : plainEscape? x = some c)
    (t : Text) : stringBody (('\\' : CodePoint) :: x :: t) =
      (stringBody t).map fun (s, r) => (c :: s, r) := by
  rw [stringBody.eq_def]
  dsimp only
  rw [if_neg (by decide), if_neg (by decide), if_neg (by decide), if_pos hx, hc]

theorem stringBody_unit {p q r s : CodePoint} {n : Nat} (hn : hexUnit? p q r s = some n)
    (hlead : (CodePoint.ofNat n).isLeadSurrogate = false) (t : Text) :
    stringBody (('\\' : CodePoint) :: 'u' :: p :: q :: r :: s :: t) =
      (stringBody t).map fun (s, r) => (CodePoint.ofNat n :: s, r) := by
  rw [stringBody.eq_def]
  dsimp only
  rw [if_neg (by decide), if_neg (by decide), if_neg (by decide), if_neg (by decide), hn]
  dsimp only
  rw [if_neg (by rw [hlead]; decide)]

/-- A code point inside a string is read off what it is written as. -/
theorem stringBody_writePoint (c : CodePoint) (t : Text) :
    stringBody (writePoint false c ++ t) = (stringBody t).map fun (s, r) => (c :: s, r) := by
  unfold writePoint
  split
  · rename_i e he
    obtain ⟨x, rfl, hx, hc⟩ := shortEscape?_eq_some he
    exact stringBody_escape hx hc t
  · rename_i hnone
    split
    · rename_i hcontrol
      obtain ⟨p, q, r, s, hfixed, hunit⟩ := hexUnit?_fixed (n := c.value) (by omega)
      have hlead : (CodePoint.ofNat c.value).isLeadSurrogate = false := by
        rw [CodePoint.ofNat_value]
        unfold CodePoint.isLeadSurrogate
        rw [Bool.and_eq_false_iff]
        exact Or.inl (decide_eq_false (by omega))
      have hread := stringBody_unit hunit hlead t
      rw [CodePoint.ofNat_value] at hread
      unfold unitEscape
      rw [hfixed]
      exact hread
    · rename_i hprintable
      -- the code point stands for itself
      have hquote : c ≠ '"' := by
        rintro rfl
        exact absurd hnone (by decide)
      have hescape : c ≠ '\\' := by
        rintro rfl
        exact absurd hnone (by decide)
      rw [if_pos (by rfl), List.singleton_append, stringBody.eq_def]
      dsimp only
      rw [if_neg hquote, if_neg hprintable, if_pos hescape]

/-- The inside of a string is read off what it is written as. -/
theorem stringBody_flatMap (t rest : Text) :
    stringBody (t.flatMap (writePoint false) ++ ('"' : CodePoint) :: rest) = some (t, rest) := by
  induction t with
  | nil =>
    rw [List.flatMap_nil, List.nil_append, stringBody.eq_def]
    exact if_pos rfl
  | cons c t ih =>
    rw [List.flatMap_cons, List.append_assoc, stringBody_writePoint, ih]
    rfl

/-- A string ends at its closing quote. -/
theorem writeString_append (t rest : Text) : writeString false t ++ rest =
    ('"' : CodePoint) :: (t.flatMap (writePoint false) ++ ('"' : CodePoint) :: rest) := by
  unfold writeString
  simp only [List.append_assoc]
  rfl

/-! ### Values -/

/-- There is no space to skip before anything else. -/
theorem skipSpace_cons {c : CodePoint} (hc : isSpace c = false) (t : Text) :
    skipSpace (c :: t) = c :: t := by
  unfold skipSpace
  rw [List.dropWhile_cons_of_neg (by simp [hc])]

/-- What begins neither a word nor a numeral. -/
theorem scalar?_of_other {c : CodePoint} (hhead : ∀ m ∈ wordValues, m.1.head? ≠ some c)
    (hdigit : c.isDigit = false) (t : Text) : scalar? (c :: t) = none := by
  have hfilled : ∀ m ∈ wordValues, (m.1[0]?).isSome := by decide
  have hword : ∀ m ∈ wordValues, Text.startsWith (c :: t) m.1 = false := by
    intro m hm
    obtain ⟨d, hd⟩ := Option.isSome_iff_exists.1 (hfilled m hm)
    have hne : c ≠ d := by
      rintro rfl
      exact hhead m hm (List.head?_eq_getElem?.trans hd)
    exact startsWith_false (k := 0) rfl hd hne
  have hminus : c ≠ '-' := by
    rintro rfl
    exact hhead ("-Infinity", .float (.infinity true)) (by simp [wordValues]) rfl
  unfold scalar?
  rw [no_word_of_startsWith hword]
  dsimp only
  rw [if_neg hminus]
  unfold magnitude? wholePart? digits
  rw [List.takeWhile_cons_of_neg (by simp [hdigit])]

/-- A word or a numeral begins with no space, and with no quote, bracket or brace. -/
theorem head_of_scalar? {c : CodePoint} {t : Text} {r : Json × Text}
    (h : scalar? (c :: t) = some r) :
    isSpace c = false ∧ c ∉ ([']', '"', '[', '\x7b'] : List CodePoint) := by
  have hspace : ∀ m ∈ wordValues, ∀ d ∈ m.1.head?, isSpace d = false := by decide
  have hother : ∀ d ∈ ([']', '"', '[', '\x7b'] : List CodePoint),
      (∀ m ∈ wordValues, m.1.head? ≠ some d) ∧ d.isDigit = false := by decide
  constructor
  · cases hc : isSpace c with
    | false => rfl
    | true =>
      have hword : ∀ m ∈ wordValues, m.1.head? ≠ some c := by
        intro m hm hhead
        rw [hspace m hm c hhead] at hc
        cases hc
      have hdigit : c.isDigit = false := by
        simp only [isSpace, Bool.or_eq_true, beq_iff_eq] at hc
        simp only [CodePoint.isDigit, Bool.and_eq_false_iff, decide_eq_false_iff_not]
        omega
      rw [scalar?_of_other hword hdigit] at h
      cases h
  · intro hmem
    obtain ⟨hword, hdigit⟩ := hother c hmem
    rw [scalar?_of_other hword hdigit] at h
    cases h

/-- A text is read as a value, whatever ends it. It begins with no space, and not like the end of a
list. -/
structure ReadAs (t : Text) (v : Json) : Prop where
  head : ∃ c u, t = c :: u ∧ isSpace c = false ∧ c ≠ ']'
  value : ∀ {fuel : Nat} {rest : Text}, t.length < fuel → Ends rest →
    value? fuel (t ++ rest) = some (v, rest)

theorem readAs_of_scalar {t : Text} {v : Json}
    (h : ∀ {rest : Text}, Ends rest → scalar? (t ++ rest) = some (v, rest)) : ReadAs t v := by
  have hread := h ends_nil
  rw [List.append_nil] at hread
  cases t with
  | nil => cases hread
  | cons c u =>
    obtain ⟨hspace, hother⟩ := head_of_scalar? hread
    simp only [List.mem_cons, List.not_mem_nil, or_false, not_or] at hother
    obtain ⟨hend, hquote, hlist, hobject⟩ := hother
    refine ⟨⟨c, u, rfl, hspace, hend⟩, fun {fuel rest} hfuel hrest => ?_⟩
    obtain ⟨fuel, rfl⟩ : ∃ n, fuel = n + 1 := ⟨fuel - 1, by omega⟩
    rw [List.cons_append, value?, if_neg hquote, if_neg hlist, if_neg hobject]
    exact h hrest

theorem readAs_str (t : Text) : ReadAs (write .inOrder (.str t)) (.str t) := by
  rw [write]
  refine ⟨⟨'"', _, rfl, by decide, by decide⟩, fun {fuel rest} hfuel hrest => ?_⟩
  obtain ⟨fuel, rfl⟩ : ∃ n, fuel = n + 1 := ⟨fuel - 1, by omega⟩
  show value? (fuel + 1) (writeString false t ++ rest) = _
  rw [writeString_append, value?, if_pos rfl, stringBody_flatMap]
  rfl

/-! ### Lists -/

/-- A list that is not empty begins with its first item. -/
theorem head_joined {items : List Json} (hne : items ≠ [])
    (h : ∀ v ∈ items, ReadAs (write .inOrder v) v) :
    ∃ c u, Text.joined "," (items.map (write .inOrder)) = c :: u ∧ isSpace c = false ∧ c ≠ ']' := by
  cases items with
  | nil => exact absurd rfl hne
  | cons v items =>
    obtain ⟨c, u, htext, hc⟩ := (h v List.mem_cons_self).head
    rw [List.map_cons, htext]
    cases items with
    | nil => exact ⟨c, u, rfl, hc⟩
    | cons v' items => exact ⟨c, _, rfl, hc⟩

theorem joined_cons_cons (t u : Text) (ts : List Text) :
    Text.joined "," (t :: u :: ts) = t ++ (',' : CodePoint) :: Text.joined "," (u :: ts) := by
  rw [Text.joined, List.append_assoc]
  rfl

/-- No space is skipped before what begins with something else. -/
theorem skipSpace_append {t : Text} {p : CodePoint → Prop}
    (h : ∃ c u, t = c :: u ∧ isSpace c = false ∧ p c) (rest : Text) :
    skipSpace (t ++ rest) = t ++ rest := by
  obtain ⟨c, u, rfl, hc, -⟩ := h
  exact skipSpace_cons hc (u ++ rest)

/-- Reads the items of a list, each up to the comma or the bracket after it. -/
theorem items?_joined {items : List Json} (hne : items ≠ [])
    (h : ∀ v ∈ items, ReadAs (write .inOrder v) v) {fuel : Nat}
    (hfuel : (Text.joined "," (items.map (write .inOrder))).length + 1 < fuel) (rest : Text) :
    items? fuel (Text.joined "," (items.map (write .inOrder)) ++ (']' : CodePoint) :: rest) =
      some (items, rest) := by
  induction items generalizing fuel with
  | nil => exact absurd rfl hne
  | cons v items ih =>
    have hv := h v List.mem_cons_self
    obtain ⟨fuel, rfl⟩ : ∃ n, fuel = n + 1 := ⟨fuel - 1, by omega⟩
    cases items with
    | nil =>
      rw [List.map_singleton, Text.joined] at hfuel ⊢
      rw [items?, hv.value (by omega) (ends_cons (Or.inr (Or.inl rfl)) rest)]
      dsimp only
      rw [skipSpace_cons (by decide)]
      dsimp only
      rw [if_pos rfl]
    | cons v' items =>
      have hitems : ∀ w ∈ v' :: items, ReadAs (write .inOrder w) w :=
        fun w hw => h w (List.mem_cons_of_mem v hw)
      have hhead := head_joined (List.cons_ne_nil v' items) hitems
      rw [List.map_cons, List.map_cons, joined_cons_cons, ← List.map_cons] at hfuel ⊢
      rw [List.length_append, List.length_cons] at hfuel
      have hlength : (Text.joined "," ((v' :: items).map (write .inOrder))).length + 1 < fuel := by
        omega
      have hrest := ih (List.cons_ne_nil v' items) hitems hlength
      rw [List.append_assoc, List.cons_append, items?,
        hv.value (by omega) (ends_cons (Or.inl rfl) _)]
      dsimp only
      rw [skipSpace_cons (by decide)]
      dsimp only
      rw [if_neg (by decide), if_pos rfl, skipSpace_append hhead, hrest]
      rfl

theorem readAs_arr {items : List Json} (h : ∀ v ∈ items, ReadAs (write .inOrder v) v) :
    ReadAs (write .inOrder (.arr items)) (.arr items) := by
  rw [write, writeItems_eq]
  refine ⟨⟨'[', _, rfl, by decide, by decide⟩, fun {fuel rest} hfuel hrest => ?_⟩
  have htext : Text.ofString "[" ++ Text.joined "," (items.map (write .inOrder)) ++
      Text.ofString "]" ++ rest = ('[' : CodePoint) ::
        (Text.joined "," (items.map (write .inOrder)) ++ (']' : CodePoint) :: rest) := by
    rw [List.append_assoc, List.append_assoc]
    rfl
  obtain ⟨fuel, rfl⟩ : ∃ n, fuel = n + 1 := ⟨fuel - 1, by omega⟩
  have hlength : (Text.joined "," (items.map (write .inOrder))).length + 1 < fuel := by
    simp only [List.length_append] at hfuel
    have hbrackets : (Text.ofString "[").length + (Text.ofString "]").length = 2 := rfl
    omega
  rw [htext, value?, if_neg (by decide), if_pos rfl]
  by_cases hne : items = []
  · subst hne
    rfl
  · have hhead := head_joined hne h
    have hitems := items?_joined hne h hlength rest
    rw [skipSpace_append hhead]
    obtain ⟨c, u, hjoined, -, hend⟩ := hhead
    rw [hjoined, List.cons_append] at hitems ⊢
    dsimp only
    rw [if_neg hend, hitems]
    rfl

/-! ### Objects -/

/-- A member as it is written. -/
def memberOf (m : Text × Json) : Text := (writtenMember .inOrder m).2

theorem memberOf_append (m : Text × Json) (rest : Text) : memberOf m ++ rest =
    ('"' : CodePoint) :: (m.1.flatMap (writePoint false) ++ ('"' : CodePoint) :: ':' ::
      (write .inOrder m.2 ++ rest)) := by
  unfold memberOf writtenMember
  rw [List.append_assoc, List.append_assoc]
  exact writeString_append m.1 _

/-- Reads one member, up to the comma or the brace after it. -/
theorem members?_memberOf {m : Text × Json} (h : ReadAs (write .inOrder m.2) m.2) {c : CodePoint}
    (hc : c = ',' ∨ c = '}') (done : List (Text × Json)) {fuel : Nat}
    (hfuel : (memberOf m).length < fuel) (rest : Text) :
    members? (fuel + 1) done (memberOf m ++ c :: rest) =
      if c = '}' then some (Entries.set m.1 m.2 done, rest)
      else members? fuel (Entries.set m.1 m.2 done) (skipSpace rest) := by
  have hends : Ends (c :: rest) := ends_cons (hc.imp id Or.inr) rest
  have hlength : (write .inOrder m.2).length < fuel := by
    have h := congrArg List.length (memberOf_append m [])
    simp only [List.append_nil, List.length_cons, List.length_append] at h
    omega
  have hspace : isSpace c = false := by rcases hc with rfl | rfl <;> decide
  rw [memberOf_append, members?, if_neg (fun h => h rfl), stringBody_flatMap]
  dsimp only
  rw [skipSpace_cons (by decide)]
  dsimp only
  rw [if_neg (fun h => h rfl), skipSpace_append h.head, h.value hlength hends]
  dsimp only
  rw [skipSpace_cons hspace]
  dsimp only
  rcases hc with rfl | rfl
  · rw [if_neg (by decide), if_pos rfl, if_neg (by decide)]
  · rw [if_pos rfl, if_pos rfl]

/-- Reads all members, each in turn into those read before. -/
theorem members?_memberOfs {members : List (Text × Json)} (hne : members ≠ [])
    (h : ∀ m ∈ members, ReadAs (write .inOrder m.2) m.2) (done : List (Text × Json))
    (hnodup : (Entries.keys (done ++ members)).Nodup) {fuel : Nat}
    (hfuel : (Text.joined "," (members.map memberOf)).length + 1 < fuel) (rest : Text) :
    members? fuel done (Text.joined "," (members.map memberOf) ++ ('}' : CodePoint) :: rest) =
      some (done ++ members, rest) := by
  induction members generalizing done fuel with
  | nil => exact absurd rfl hne
  | cons m members ih =>
    have hm := h m List.mem_cons_self
    -- the key is new, so the member goes to the end
    have hset : Entries.set m.1 m.2 done = done ++ [m] := by
      unfold Entries.keys at hnodup
      rw [List.map_append, List.map_cons] at hnodup
      exact Entries.set_of_nodup hnodup m.2
    obtain ⟨fuel, rfl⟩ : ∃ n, fuel = n + 1 := ⟨fuel - 1, by omega⟩
    cases members with
    | nil =>
      rw [List.map_singleton, Text.joined] at hfuel ⊢
      rw [members?_memberOf hm (Or.inr rfl) done (by omega), if_pos rfl, hset]
    | cons m' members =>
      rw [List.map_cons, List.map_cons, joined_cons_cons, ← List.map_cons] at hfuel ⊢
      rw [List.length_append, List.length_cons] at hfuel
      have hlength : (Text.joined "," ((m' :: members).map memberOf)).length + 1 < fuel := by
        omega
      have hrest := ih (List.cons_ne_nil m' members)
        (fun n hn => h n (List.mem_cons_of_mem m hn)) (done ++ [m]) (by simpa using hnodup) hlength
      -- a member begins with its quote, so no space is skipped
      have hskip : ∀ t, skipSpace (Text.joined "," ((m' :: members).map memberOf) ++ t) =
          Text.joined "," ((m' :: members).map memberOf) ++ t := by
        cases members <;> exact fun _ => rfl
      rw [List.append_assoc, List.cons_append, members?_memberOf hm (Or.inl rfl) done (by omega),
        if_neg (by decide), hset, hskip, hrest, List.append_assoc]
      rfl

/-- An object is written as its members stand. -/
theorem write_obj (members : List (Text × Json)) : write .inOrder (.obj members) =
    "\x7b" ++ Text.joined "," (members.map memberOf) ++ "\x7d" := by
  have harrange : (Style.arrange .inOrder (writeMembers .inOrder members)).map Prod.snd =
      members.map memberOf := by
    rw [writeMembers_eq]
    exact List.map_map
  rw [write, harrange]

theorem readAs_obj {members : List (Text × Json)} (hnodup : (Entries.keys members).Nodup)
    (h : ∀ m ∈ members, ReadAs (write .inOrder m.2) m.2) :
    ReadAs (write .inOrder (.obj members)) (.obj members) := by
  rw [write_obj]
  refine ⟨⟨'\x7b', _, rfl, by decide, by decide⟩, fun {fuel rest} hfuel hrest => ?_⟩
  have htext : Text.ofString "\x7b" ++ Text.joined "," (members.map memberOf) ++
      Text.ofString "\x7d" ++ rest = ('\x7b' : CodePoint) ::
        (Text.joined "," (members.map memberOf) ++ ('\x7d' : CodePoint) :: rest) := by
    rw [List.append_assoc, List.append_assoc]
    rfl
  obtain ⟨fuel, rfl⟩ : ∃ n, fuel = n + 1 := ⟨fuel - 1, by omega⟩
  have hlength : (Text.joined "," (members.map memberOf)).length + 1 < fuel := by
    simp only [List.length_append] at hfuel
    have hbraces : (Text.ofString "\x7b").length + (Text.ofString "\x7d").length = 2 := rfl
    omega
  rw [htext, value?, if_neg (by decide), if_neg (by decide), if_pos rfl]
  by_cases hne : members = []
  · subst hne
    rfl
  · have hmembers := members?_memberOfs hne h [] hnodup hlength rest
    obtain ⟨u, hjoined⟩ : ∃ u, Text.joined "," (members.map memberOf) = ('"' : CodePoint) :: u := by
      match members, hne with
      | [m], _ => exact ⟨_, rfl⟩
      | m :: m' :: members, _ => exact ⟨_, rfl⟩
    rw [hjoined, List.cons_append] at hmembers ⊢
    rw [skipSpace_cons (by decide)]
    dsimp only
    rw [if_neg (by decide), hmembers]
    rfl

/-- **A value is read off its text.** -/
theorem readAs_write {v : Json} (h : HasDistinctKeys v) : ReadAs (write .inOrder v) v := by
  induction h with
  | null => exact readAs_of_scalar fun _ => scalar?_word (w := "null") (by simp [wordValues]) _
  | bool b =>
    cases b with
    | true => exact readAs_of_scalar fun _ => scalar?_word (w := "true") (by simp [wordValues]) _
    | false => exact readAs_of_scalar fun _ => scalar?_word (w := "false") (by simp [wordValues]) _
  | int i => exact readAs_of_scalar (scalar?_ofInt i)
  | float x => exact readAs_of_scalar (scalar?_float x)
  | str t => exact readAs_str t
  | arr _ ih => exact readAs_arr ih
  | obj hnodup _ ih => exact readAs_obj hnodup ih

/-- **Reading undoes writing.** -/
theorem read?_write {v : Json} (h : HasDistinctKeys v) : read? (write .inOrder v) = some v := by
  have hread := readAs_write h
  obtain ⟨c, u, htext, hspace, -⟩ := hread.head
  have hvalue := hread.value (Nat.lt_succ_self _) ends_nil
  rw [List.append_nil] at hvalue
  have hskip : skipSpace (write .inOrder v) = write .inOrder v := by
    rw [htext, skipSpace_cons hspace]
  unfold read?
  rw [hskip, hvalue]
  rfl

/-- **The canonical text is read as the sorted value.** -/
theorem read?_canonical {v : Json} (h : HasDistinctKeys v) :
    read? (canonical v) = some v.sorted := by
  rw [canonical_eq]
  exact read?_write h.sorted

end Json

end Issuance
