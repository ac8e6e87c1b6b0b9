import Issuance.Proofs.Json.Encodable
import Issuance.Proofs.Json.RoundTrip
import Issuance.Proofs.Text.Utf8

/-!
# Issuance.Proofs.Json.Faithful

**The canonical form stands for the value.** What makes two values the same, up to the order of
members, is that they are equal once they are sorted (`same_iff_sorted_eq`). The canonical text is
that of the sorted value, and it is read as that value, so it tells values apart exactly as far as
`Json.Same` does (`canonical_eq_iff_same`). In bytes it still does, and no byte of it is a control
(`canonical_form_is_faithful`): a form can stand on a line of its own in a log, and can be hashed in
place of the value.
-/

namespace Issuance

namespace Utf8

/-- The bytes of a code point are no controls where it is none. -/
theorem le_of_mem_encodePoint {c : CodePoint} (h : 0x20 ≤ c.value) {b : UInt8}
    (hb : b ∈ encodePoint c) : 0x20 ≤ b.toNat := by
  have hc := c.value_lt
  unfold encodePoint at hb
  dsimp only at hb
  -- one case for each length of a sequence
  repeat' split at hb
  all_goals
    simp only [List.mem_cons, List.not_mem_nil, or_false] at hb
    rcases hb with rfl | rfl | rfl | rfl
  all_goals
    rw [toNat_ofNat (by omega)]
    omega

end Utf8

namespace Entries

variable {κ ν : Type} [DecidableEq κ]

/-- Entries with distinct keys that have the same values at all keys are the same entries. -/
theorem perm_of_get?_eq {es es' : Entries κ ν} (hnodup : (keys es).Nodup)
    (hnodup' : (keys es').Nodup) (h : ∀ key, get? key es = get? key es') : es.Perm es' := by
  refine (List.perm_ext_iff_of_nodup hnodup.of_map hnodup'.of_map).2 fun e => ?_
  constructor
  · intro he
    exact mem_of_get? ((h e.1).symm.trans (get?_of_mem hnodup he))
  · intro he
    exact mem_of_get? ((h e.1).trans (get?_of_mem hnodup' he))

end Entries

namespace Json

/-! ### Values that are the same -/

theorem Same.symm {v w : Json} (h : Same v w) : Same w v := by
  induction h with
  | null => exact .null
  | bool b => exact .bool b
  | int i => exact .int i
  | float x => exact .float x
  | str t => exact .str t
  | arr hlength _ ih => exact .arr hlength.symm fun i x y hx hy => ih i y x hy hx
  | obj hkeys _ ih => exact .obj (fun key => (hkeys key).symm) fun key x y hx hy => ih key y x hy hx

theorem Same.trans {u v w : Json} (h : Same u v) (h' : Same v w) : Same u w := by
  induction h generalizing w with
  | null => exact h'
  | bool b => exact h'
  | int i => exact h'
  | float x => exact h'
  | str t => exact h'
  | @arr xs ys hlength _ ih =>
    cases h' with
    | @arr _ zs hlength' h' =>
      refine .arr (hlength.trans hlength') fun i x z hx hz => ?_
      have hi : i < ys.length := hlength ▸ (List.getElem?_eq_some_iff.1 hx).1
      have hy := List.getElem?_eq_getElem hi
      exact ih i x _ hx hy (h' i _ z hy hz)
  | @obj ms ns hkeys _ ih =>
    cases h' with
    | @obj _ ps hkeys' h' =>
      refine .obj (fun key => (hkeys key).trans (hkeys' key)) fun key x z hx hz => ?_
      have hmem : key ∈ Entries.keys ns := (hkeys key).1 (Entries.mem_keys_iff.2 (by
        show (field? ms key).isSome
        rw [hx]
        rfl))
      obtain ⟨y, hy⟩ := Option.isSome_iff_exists.1 (Entries.mem_keys_iff.1 hmem)
      exact ih key x y hx hy (h' key y z hy hz)

/-- Values that are the same are equal once they are sorted. -/
theorem sorted_eq_of_same {v w : Json} (h : Same v w) (hv : v.HasDistinctKeys)
    (hw : w.HasDistinctKeys) : v.sorted = w.sorted := by
  induction h with
  | null => rfl
  | bool b => rfl
  | int i => rfl
  | float x => rfl
  | str t => rfl
  | @arr xs ys hlength _ ih =>
    rw [sorted, sorted, sortedItems_eq, sortedItems_eq]
    refine congrArg Json.arr (List.ext_getElem (by simpa using hlength) fun i hi hi' => ?_)
    rw [List.length_map] at hi hi'
    rw [List.getElem_map, List.getElem_map]
    exact ih i _ _ (List.getElem?_eq_getElem hi) (List.getElem?_eq_getElem hi')
      (hv.items _ (List.getElem_mem hi)) (hw.items _ (List.getElem_mem hi'))
  | @obj ms ns hkeys _ ih =>
    obtain ⟨hnodup, hms⟩ := hv.members
    obtain ⟨hnodup', hns⟩ := hw.members
    rw [← keys_map_sorted] at hnodup hnodup'
    rw [sorted, sorted, sortedMembers_eq, sortedMembers_eq]
    refine congrArg Json.obj (Entries.byKey_of_perm hnodup
      (Entries.perm_of_get?_eq hnodup hnodup' fun key => ?_))
    -- at every key there is nothing in both, or the same in both
    refine (Entries.get?_map Json.sorted key ms).trans (Eq.trans ?_
      (Entries.get?_map Json.sorted key ns).symm)
    have hboth := hkeys key
    rw [Entries.mem_keys_iff, Entries.mem_keys_iff] at hboth
    cases hx : Entries.get? key ms with
    | none =>
      rw [hx] at hboth
      rw [Option.not_isSome_iff_eq_none.1 fun hsome => Bool.false_ne_true (hboth.2 hsome)]
    | some x =>
      obtain ⟨y, hy⟩ := Option.isSome_iff_exists.1 (hboth.1 (by rw [hx]; rfl))
      rw [hy]
      exact congrArg some (ih key x y hx hy (hms _ (Entries.mem_of_get? hx))
        (hns _ (Entries.mem_of_get? hy)))

/-- **Two values are the same exactly if they are equal once they are sorted.** -/
theorem same_iff_sorted_eq {v w : Json} (hv : v.HasDistinctKeys) (hw : w.HasDistinctKeys) :
    Same v w ↔ v.sorted = w.sorted := by
  refine ⟨fun h => sorted_eq_of_same h hv hw, fun h => (same_sorted hv).trans ?_⟩
  rw [h]
  exact (same_sorted hw).symm

/-! ### The canonical form -/

/-- **The canonical text tells values apart** as far as they are not the same. -/
theorem canonical_eq_iff_same {v w : Json} (hv : v.HasDistinctKeys) (hw : w.HasDistinctKeys) :
    canonical v = canonical w ↔ Same v w := by
  rw [same_iff_sorted_eq hv hw]
  constructor
  · intro h
    have hread := read?_canonical hv
    rw [h, read?_canonical hw] at hread
    exact (Option.some.inj hread).symm
  · intro h
    rw [canonical_eq, canonical_eq, h]

theorem canonicalBytes?_of_scalar {v : Json} (h : ∀ t, Mentions t v → t.IsScalar) :
    canonicalBytes? v = some ((canonical v).flatMap Utf8.encodePoint) :=
  Utf8.encode?_of_isScalar (isScalar_canonical_iff.2 h)

/-- No byte of a canonical form is a control. -/
theorem le_of_mem_canonicalBytes? {v : Json} {bs : Bytes} (h : canonicalBytes? v = some bs)
    {b : UInt8} (hb : b ∈ bs) : 0x20 ≤ b.toNat := by
  have hscalar : (canonical v).IsScalar := Utf8.isScalar_of_encode? h
  unfold canonicalBytes? at h
  rw [Utf8.encode?_of_isScalar hscalar] at h
  cases h
  obtain ⟨c, hc, hb⟩ := List.mem_flatMap.1 hb
  exact Utf8.le_of_mem_encodePoint (no_control_write hc) hb

/-- Canonical forms in bytes are equal just as the texts are. -/
theorem canonicalBytes?_eq_iff {v w : Json} {bs : Bytes} (hv : canonicalBytes? v = some bs) :
    canonicalBytes? w = some bs ↔ canonical v = canonical w := by
  constructor
  · intro h
    exact Option.some.inj ((Utf8.decode?_encode? hv).symm.trans (Utf8.decode?_encode? h))
  · intro h
    unfold canonicalBytes? at hv ⊢
    rw [← h, hv]

/-- **The canonical form is faithful.** An object of which no text has a lone surrogate has a
canonical form in bytes. It is on one line: no byte of it is a line feed or a carriage return. It is
UTF-8, and what is read off it is the same object. And another such object has these very bytes for
its canonical form exactly if it is the same, the order of members apart: integers, floating-point
numbers and booleans are never the same, nor are the two zeros, and one NaN is the same as
another. -/
theorem canonical_form_is_faithful {members : List (Text × Json)}
    (distinct : HasDistinctKeys (.obj members))
    (scalar : ∀ t, Mentions t (.obj members) → t.IsScalar) :
    ∃ bs, canonicalBytes? (.obj members) = some bs ∧ (∀ b ∈ bs, b ≠ 0x0A ∧ b ≠ 0x0D) ∧
      (∃ text found, Utf8.decode? bs = some text ∧ read? text = some (.obj found) ∧
        HasDistinctKeys (.obj found) ∧ Same (.obj members) (.obj found)) ∧
      ∀ others, HasDistinctKeys (.obj others) →
        (∀ t, Mentions t (.obj others) → t.IsScalar) →
        (canonicalBytes? (.obj others) = some bs ↔ Same (.obj members) (.obj others)) := by
  have hbytes := canonicalBytes?_of_scalar scalar
  refine ⟨_, hbytes, fun b hb => ?_, ?_, fun others hdistinct hscalar => ?_⟩
  · have hvisible := le_of_mem_canonicalBytes? hbytes hb
    constructor
    · rintro rfl
      exact absurd hvisible (by decide)
    · rintro rfl
      exact absurd hvisible (by decide)
  · obtain ⟨found, hfound, -⟩ := sorted_obj members
    have hread := read?_canonical distinct
    have hkeys := distinct.sorted
    have hsame := same_sorted distinct
    rw [hfound] at hread hkeys hsame
    exact ⟨_, found, Utf8.decode?_encode? hbytes, hread, hkeys, hsame⟩
  · rw [canonicalBytes?_eq_iff hbytes]
    exact canonical_eq_iff_same distinct hdistinct

/-- An object with a NaN, and with a line break and a mark in a list. -/
def reading (mark : Json) : List (Text × Json) :=
  [("ratio", .float .nan), ("lines", .arr [.str "a\nb", mark])]

theorem hasDistinctKeys_reading {mark : Json} (h : mark.HasDistinctKeys) :
    HasDistinctKeys (.obj (reading mark)) := by
  refine .obj (show (["ratio", "lines"] : List Text).Nodup by decide) fun m hm => ?_
  simp only [reading, List.mem_cons, List.not_mem_nil, or_false] at hm
  rcases hm with rfl | rfl
  · exact .float _
  · refine .arr fun v hv => ?_
    simp only [List.mem_cons, List.not_mem_nil, or_false] at hv
    rcases hv with rfl | rfl
    · exact .str _
    · exact h

theorem isScalar_reading {mark : Json} (h : ∀ t, Mentions t mark → t.IsScalar) (t : Text)
    (ht : Mentions t (.obj (reading mark))) : t.IsScalar := by
  have htexts : ∀ s ∈ (["ratio", "lines", "a\nb"] : List Text), s.IsScalar := by
    intro s hs
    simp only [List.mem_cons, List.not_mem_nil, or_false] at hs
    rcases hs with rfl | rfl | rfl <;> exact Text.isScalar_of_any (by decide)
  cases ht with
  | key hm =>
    simp only [reading, List.mem_cons, List.not_mem_nil, or_false, Prod.mk.injEq] at hm
    rcases hm with ⟨rfl, -⟩ | ⟨rfl, -⟩ <;> exact htexts _ (by simp)
  | value hm ht =>
    simp only [reading, List.mem_cons, List.not_mem_nil, or_false] at hm
    rcases hm with rfl | rfl
    · cases ht
    · cases ht with
      | item hv ht =>
        simp only [List.mem_cons, List.not_mem_nil, or_false] at hv
        rcases hv with rfl | rfl
        · cases ht
          exact htexts _ (by simp)
        · exact h t ht

/-- Two objects are told apart by `1` and `true` in the same place, and not by the order of their
members. -/
theorem order_is_not_told :
    HasDistinctKeys (.obj (reading (.int 1))) ∧
      (∀ t, Mentions t (.obj (reading (.int 1))) → t.IsScalar) ∧
      ∃ bs, canonicalBytes? (.obj (reading (.int 1))) = some bs ∧
        canonicalBytes? (.obj (reading (.int 1)).reverse) = some bs ∧
        canonicalBytes? (.obj (reading (.bool true))) ≠ some bs := by
  have hdistinct := hasDistinctKeys_reading (.int 1)
  have hscalar : ∀ t, Mentions t (.obj (reading (.int 1))) → t.IsScalar := isScalar_reading nofun
  obtain ⟨bs, hbytes, -, -, htold⟩ := canonical_form_is_faithful hdistinct hscalar
  refine ⟨hdistinct, hscalar, bs, hbytes, ?_, fun htrue => ?_⟩
  · rw [canonicalBytes?_eq_iff hbytes]
    exact canonical_of_perm hdistinct.members.1 (List.reverse_perm _).symm
  · have hsame := (htold (reading (.bool true)) (hasDistinctKeys_reading (.bool true))
      (isScalar_reading nofun)).1 htrue
    -- the objects differ in the second item of the second member
    cases hsame with
    | obj _ hmembers =>
      cases hmembers "lines" _ _ rfl rfl with
      | arr _ hitems => cases hitems 1 _ _ rfl rfl

end Json

end Issuance
