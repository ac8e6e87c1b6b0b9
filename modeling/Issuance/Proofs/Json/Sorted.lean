import Issuance.Proofs.Entries
import Issuance.Proofs.Json.Writer

/-!
# Issuance.Proofs.Json.Sorted

**The canonical text does not depend on the order of members.** `Json.sorted` puts the members of
every object in the order of their keys, and the canonical text of a value is the text of the sorted
value as it stands (`canonical_eq`). So two objects have the same canonical text if the members of
one are those of the other in another order (`canonical_of_perm`), and sorting what has been sorted
changes nothing that is written (`canonical_sorted`).

`Json.Same` is the equality of values in which the order of members does not count: a value is the
same as the sorted one (`same_sorted`).
-/

namespace Issuance

namespace Text

/-! ### The order of texts -/

theorem le_cons_iff {a b : CodePoint} {s t : Text} :
    le (a :: s) (b :: t) = true ↔ a.value < b.value ∨ a.value = b.value ∧ le s t = true := by
  rw [le]
  rcases Nat.lt_trichotomy a.value b.value with hlt | heq | hgt
  · simp [hlt]
  · simp [heq]
  · simp [hgt, Nat.lt_asymm hgt, Nat.ne_of_gt hgt]

theorem le_total (s t : Text) : le s t = true ∨ le t s = true := by
  induction s generalizing t with
  | nil => exact Or.inl rfl
  | cons a s ih =>
    cases t with
    | nil => exact Or.inr rfl
    | cons b t =>
      rw [le_cons_iff, le_cons_iff]
      rcases Nat.lt_trichotomy a.value b.value with hlt | heq | hgt
      · exact Or.inl (Or.inl hlt)
      · exact (ih t).imp (fun h => Or.inr ⟨heq, h⟩) fun h => Or.inr ⟨heq.symm, h⟩
      · exact Or.inr (Or.inl hgt)

theorem le_trans {s t u : Text} (hst : le s t = true) (htu : le t u = true) : le s u = true := by
  induction s generalizing t u with
  | nil => rfl
  | cons a s ih =>
    cases t with
    | nil => cases hst
    | cons b t =>
      cases u with
      | nil => cases htu
      | cons c u =>
        rw [le_cons_iff] at hst htu ⊢
        rcases hst with hlt | ⟨heq, hst⟩
        · exact Or.inl (by rcases htu with h | ⟨h, -⟩ <;> omega)
        · rcases htu with hlt | ⟨heq', htu⟩
          · exact Or.inl (by omega)
          · exact Or.inr ⟨heq.trans heq', ih hst htu⟩

theorem le_antisymm {s t : Text} (hst : le s t = true) (hts : le t s = true) : s = t := by
  induction s generalizing t with
  | nil =>
    cases t with
    | nil => rfl
    | cons b t => cases hts
  | cons a s ih =>
    cases t with
    | nil => cases hst
    | cons b t =>
      rw [le_cons_iff] at hst hts
      rcases hst with hlt | ⟨heq, hst⟩
      · rcases hts with hgt | ⟨heq, -⟩ <;> omega
      · rcases hts with hgt | ⟨-, hts⟩
        · omega
        · rw [CodePoint.eq_of_value_eq heq, ih hst hts]

end Text

namespace Entries

/-! ### Entries in the order of their keys -/

variable {ν μ : Type}

/-- One key comes before the other, or they are the same. -/
def keyLe (a b : Text × ν) : Bool := a.1.le b.1

theorem keyLe_trans (a b c : Text × ν) (hab : keyLe a b = true) (hbc : keyLe b c = true) :
    keyLe a c = true := Text.le_trans hab hbc

theorem keyLe_total (a b : Text × ν) : (keyLe a b || keyLe b a) = true :=
  Bool.or_eq_true_iff.2 (Text.le_total a.1 b.1)

/-- The entries in the order of their keys, those with the same key as they stand. -/
def byKey (es : Entries Text ν) : Entries Text ν := es.mergeSort keyLe

theorem byKey_perm (es : Entries Text ν) : (byKey es).Perm es := List.mergeSort_perm _ _

theorem pairwise_byKey (es : Entries Text ν) :
    (byKey es).Pairwise fun a b => keyLe a b = true :=
  List.pairwise_mergeSort keyLe_trans keyLe_total es

/-- What keeps the keys can be done before or after. -/
theorem map_byKey {f : Text × ν → Text × μ} (hf : ∀ e, (f e).1 = e.1) (es : Entries Text ν) :
    (byKey es).map f = byKey (es.map f) :=
  List.map_mergeSort fun a _ b _ => by rw [keyLe, keyLe, hf, hf]

theorem byKey_byKey (es : Entries Text ν) : byKey (byKey es) = byKey es :=
  List.mergeSort_of_pairwise (pairwise_byKey es)

/-- There is only one order of distinct keys. -/
theorem byKey_of_perm {es es' : Entries Text ν} (hnodup : (keys es).Nodup) (h : es.Perm es') :
    byKey es = byKey es' := by
  refine List.Perm.eq_of_pairwise (fun a b ha hb hab hba => ?_) (pairwise_byKey es)
    (pairwise_byKey es') ((byKey_perm es).trans (h.trans (byKey_perm es').symm))
  obtain ⟨k, v⟩ := a
  obtain ⟨l, w⟩ := b
  obtain rfl : k = l := Text.le_antisymm hab hba
  have hv := get?_of_mem hnodup ((byKey_perm es).mem_iff.1 ha)
  have hw := get?_of_mem hnodup (h.mem_iff.2 ((byKey_perm es').mem_iff.1 hb))
  rw [hv] at hw
  rw [Option.some.inj hw]

end Entries

namespace Json

/-- What holds of every value holds of it because it holds of what is inside. -/
@[elab_as_elim, induction_eliminator]
theorem induction {P : Json → Prop} (null : P .null) (bool : ∀ b, P (.bool b))
    (int : ∀ i, P (.int i)) (float : ∀ x, P (.float x)) (str : ∀ t, P (.str t))
    (arr : ∀ items, (∀ v ∈ items, P v) → P (.arr items))
    (obj : ∀ members, (∀ m ∈ members, P m.2) → P (.obj members)) (v : Json) : P v :=
  @Json.rec P (fun items => ∀ v ∈ items, P v) (fun members => ∀ m ∈ members, P m.2)
    (fun m => P m.2) null bool int float str arr obj (List.forall_mem_nil _)
    (fun _ _ hv hvs => List.forall_mem_cons.2 ⟨hv, hvs⟩) (List.forall_mem_nil _)
    (fun _ _ hm hms => List.forall_mem_cons.2 ⟨hm, hms⟩) (fun _ _ hv => hv) v

/-! ### Members with distinct keys -/

/-- No object inside the value has two members with the same key. -/
inductive HasDistinctKeys : Json → Prop
  | null : HasDistinctKeys .null
  | bool (b : Bool) : HasDistinctKeys (.bool b)
  | int (i : Int) : HasDistinctKeys (.int i)
  | float (x : Binary64) : HasDistinctKeys (.float x)
  | str (t : Text) : HasDistinctKeys (.str t)
  | arr {items : List Json} : (∀ v ∈ items, HasDistinctKeys v) → HasDistinctKeys (.arr items)
  | obj {members : List (Text × Json)} : (Entries.keys members).Nodup →
    (∀ m ∈ members, HasDistinctKeys m.2) → HasDistinctKeys (.obj members)

theorem HasDistinctKeys.items {items : List Json} (h : HasDistinctKeys (.arr items)) :
    ∀ v ∈ items, HasDistinctKeys v := by
  cases h with
  | arr h => exact h

theorem HasDistinctKeys.members {members : List (Text × Json)}
    (h : HasDistinctKeys (.obj members)) :
    (Entries.keys members).Nodup ∧ ∀ m ∈ members, HasDistinctKeys m.2 := by
  cases h with
  | obj hnodup h => exact ⟨hnodup, h⟩

theorem hasDistinctKeys_nil : HasDistinctKeys (.obj []) :=
  .obj List.nodup_nil (List.forall_mem_nil _)

/-- A member is set among members with distinct keys. -/
theorem HasDistinctKeys.set {members : List (Text × Json)} (h : HasDistinctKeys (.obj members))
    {v : Json} (hv : v.HasDistinctKeys) (key : Text) :
    HasDistinctKeys (.obj (Entries.set key v members)) := by
  obtain ⟨hnodup, hmembers⟩ := h.members
  refine .obj (Entries.nodup_keys_set hnodup key v) fun m hm => ?_
  rcases Entries.mem_of_mem_set hm with rfl | hm
  · exact hv
  · exact hmembers m hm

/-- Two values are the same up to the order of members: objects have the same keys, and the same
values at them. -/
inductive Same : Json → Json → Prop
  | null : Same .null .null
  | bool (b : Bool) : Same (.bool b) (.bool b)
  | int (i : Int) : Same (.int i) (.int i)
  | float (x : Binary64) : Same (.float x) (.float x)
  | str (t : Text) : Same (.str t) (.str t)
  | arr {xs ys : List Json} : xs.length = ys.length →
    (∀ (i : Nat) x y, xs[i]? = some x → ys[i]? = some y → Same x y) → Same (.arr xs) (.arr ys)
  | obj {ms ns : List (Text × Json)} : (∀ key, key ∈ Entries.keys ms ↔ key ∈ Entries.keys ns) →
    (∀ key x y, field? ms key = some x → field? ns key = some y → Same x y) →
    Same (.obj ms) (.obj ns)

/-! ### Sorting -/

mutual

/-- The value with the members of every object in the order of their keys. -/
def sorted : Json → Json
  | .arr items => .arr (sortedItems items)
  | .obj members => .obj (Entries.byKey (sortedMembers members))
  | v => v

def sortedItems : List Json → List Json
  | [] => []
  | v :: vs => sorted v :: sortedItems vs

def sortedMembers : List (Text × Json) → List (Text × Json)
  | [] => []
  | (k, v) :: ms => (k, sorted v) :: sortedMembers ms

end

/-- A member with its value sorted. -/
def sortedMember (m : Text × Json) : Text × Json := (m.1, sorted m.2)

theorem sortedItems_eq (items : List Json) : sortedItems items = items.map sorted := by
  induction items with
  | nil => rw [sortedItems, List.map_nil]
  | cons v vs ih => rw [sortedItems, List.map_cons, ih]

theorem sortedMembers_eq (members : List (Text × Json)) :
    sortedMembers members = members.map sortedMember := by
  induction members with
  | nil => rw [sortedMembers, List.map_nil]
  | cons m ms ih =>
    rw [sortedMembers, List.map_cons, ih]
    rfl

/-- The members of a sorted object are the sorted members in another order. -/
theorem sorted_obj (members : List (Text × Json)) :
    ∃ members', sorted (.obj members) = .obj members' ∧
      members'.Perm (members.map sortedMember) := by
  rw [sorted, sortedMembers_eq]
  exact ⟨_, rfl, Entries.byKey_perm _⟩

theorem keys_map_sorted (members : List (Text × Json)) :
    Entries.keys (members.map sortedMember) = Entries.keys members := by
  unfold Entries.keys
  rw [List.map_map]
  rfl

theorem HasDistinctKeys.sorted {v : Json} (h : HasDistinctKeys v) : HasDistinctKeys v.sorted := by
  induction h with
  | null => exact .null
  | bool b => exact .bool b
  | int i => exact .int i
  | float x => exact .float x
  | str t => exact .str t
  | @arr items h ih =>
    rw [Json.sorted, sortedItems_eq]
    refine .arr fun v hv => ?_
    obtain ⟨w, hw, rfl⟩ := List.mem_map.1 hv
    exact ih w hw
  | @obj members hnodup h ih =>
    obtain ⟨members', heq, hperm⟩ := sorted_obj members
    rw [heq]
    refine .obj ?_ fun m hm => ?_
    · rw [← keys_map_sorted] at hnodup
      exact (hperm.map Prod.fst).nodup_iff.2 hnodup
    · obtain ⟨m', hm', rfl⟩ := List.mem_map.1 (hperm.mem_iff.1 hm)
      exact ih m' hm'

/-- What is found in a sorted object is what was there, sorted. -/
theorem field?_of_sorted {members members' : List (Text × Json)}
    (h : HasDistinctKeys (.obj members)) (heq : Json.sorted (.obj members) = .obj members')
    (key : Text) : field? members' key = (field? members key).map Json.sorted := by
  obtain ⟨ms, hms, hperm⟩ := sorted_obj members
  rw [heq] at hms
  cases hms
  have hnodup := h.members.1
  rw [← keys_map_sorted] at hnodup
  exact (Entries.get?_of_perm hnodup hperm.symm key).trans (Entries.get?_map sorted key members)

theorem member_sorted {v : Json} (h : v.HasDistinctKeys) (key : Text) :
    v.sorted.member key = (v.member key).sorted := by
  cases v with
  | obj members =>
    obtain ⟨members', heq, -⟩ := sorted_obj members
    rw [heq]
    show ((field? members' key).getD .null) = ((field? members key).getD .null).sorted
    rw [field?_of_sorted h heq]
    cases field? members key <;> rfl
  | _ => rfl

theorem HasDistinctKeys.member {v : Json} (h : v.HasDistinctKeys) (key : Text) :
    (v.member key).HasDistinctKeys := by
  cases v with
  | obj members =>
    show ((field? members key).getD .null).HasDistinctKeys
    cases hfield : field? members key with
    | none => exact .null
    | some w => exact h.members.2 (key, w) (Entries.mem_of_get? hfield)
  | _ => exact .null

theorem text?_sorted (v : Json) : v.sorted.text? = v.text? := by
  cases v <;> rfl

/-- **Sorting changes the order of members and nothing else.** -/
theorem same_sorted {v : Json} (h : HasDistinctKeys v) : Same v v.sorted := by
  induction v with
  | null => exact .null
  | bool b => exact .bool b
  | int i => exact .int i
  | float x => exact .float x
  | str t => exact .str t
  | arr items ih =>
    rw [Json.sorted, sortedItems_eq]
    refine .arr (List.length_map _).symm fun i x y hx hy => ?_
    rw [List.getElem?_map, hx] at hy
    cases hy
    have hmem := List.mem_of_getElem? hx
    exact ih x hmem (h.items x hmem)
  | obj members ih =>
    obtain ⟨members', heq, hperm⟩ := sorted_obj members
    have hfield := field?_of_sorted h heq
    rw [heq]
    refine .obj (fun key => ?_) fun key x y hx hy => ?_
    · rw [← keys_map_sorted]
      exact (hperm.map Prod.fst).mem_iff.symm
    · rw [hfield, hx] at hy
      cases hy
      have hmem := Entries.mem_of_get? hx
      exact ih (key, x) hmem (h.members.2 (key, x) hmem)

/-! ### The canonical text -/

/-- Members in their own order, and nothing escaped that need not be. -/
def Style.inOrder : Style := ⟨false, false⟩

/-- **The canonical text is that of the sorted value as it stands.** -/
theorem canonical_eq (v : Json) : canonical v = write .inOrder v.sorted := by
  unfold canonical
  induction v with
  | null => rfl
  | bool b => rfl
  | int i => rfl
  | float x => rfl
  | str t => rfl
  | arr items ih =>
    have hitems : items.map (write .canonical) = (items.map sorted).map (write .inOrder) := by
      rw [List.map_map]
      exact List.map_congr_left ih
    rw [sorted, write, write, writeItems_eq, writeItems_eq, sortedItems_eq, hitems]
  | obj members ih =>
    have hmembers : members.map (writtenMember .canonical) =
        (members.map sortedMember).map (writtenMember .inOrder) := by
      rw [List.map_map]
      refine List.map_congr_left fun m hm => ?_
      unfold writtenMember
      rw [ih m hm]
      rfl
    have harrange : Style.arrange .canonical (writeMembers .canonical members) =
        Style.arrange .inOrder
          (writeMembers .inOrder (Entries.byKey (sortedMembers members))) := by
      rw [writeMembers_eq, writeMembers_eq, hmembers, sortedMembers_eq]
      exact (Entries.map_byKey (f := writtenMember .inOrder) (fun _ => rfl) _).symm
    rw [sorted, write, write, harrange]

/-- Sorted members stay as they are when they are sorted again. -/
theorem sorted_sorted (v : Json) : v.sorted.sorted = v.sorted := by
  induction v with
  | null => rfl
  | bool b => rfl
  | int i => rfl
  | float x => rfl
  | str t => rfl
  | arr items ih =>
    rw [sorted, sorted, sortedItems_eq, sortedItems_eq, List.map_map]
    exact congrArg Json.arr (List.map_congr_left ih)
  | obj members ih =>
    have hmembers : (members.map sortedMember).map sortedMember =
        members.map sortedMember := by
      rw [List.map_map]
      refine List.map_congr_left fun m hm => ?_
      exact congrArg (Prod.mk m.1) (ih m hm)
    rw [sorted, sorted, sortedMembers_eq, sortedMembers_eq,
      Entries.map_byKey (f := sortedMember) (fun _ => rfl), hmembers, Entries.byKey_byKey]

theorem canonical_sorted (v : Json) : canonical v.sorted = canonical v := by
  rw [canonical_eq, canonical_eq, sorted_sorted]

/-- **The order of members does not count.** -/
theorem canonical_of_perm {members members' : List (Text × Json)}
    (hnodup : (Entries.keys members).Nodup) (h : members.Perm members') :
    canonical (.obj members) = canonical (.obj members') := by
  have hkeys : Entries.keys (members.map (writtenMember .canonical)) = Entries.keys members := by
    unfold Entries.keys
    rw [List.map_map]
    rfl
  have harrange : Style.arrange .canonical (writeMembers .canonical members) =
      Style.arrange .canonical (writeMembers .canonical members') := by
    rw [writeMembers_eq, writeMembers_eq]
    exact Entries.byKey_of_perm (hkeys ▸ hnodup) (h.map _)
  unfold canonical
  rw [write, write, harrange]

/-- Nor does the order of members further inside. -/
theorem canonical_map_sorted (members : List (Text × Json)) :
    canonical (.obj (members.map sortedMember)) = canonical (.obj members) := by
  have hmembers : (members.map sortedMember).map (writtenMember .canonical) =
      members.map (writtenMember .canonical) := by
    rw [List.map_map]
    refine List.map_congr_left fun m _ => ?_
    have h := canonical_sorted m.2
    unfold canonical at h
    unfold writtenMember
    rw [← h]
    rfl
  unfold canonical
  rw [write, write, writeMembers_eq, writeMembers_eq, hmembers]

end Json

end Issuance
