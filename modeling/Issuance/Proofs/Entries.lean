import Issuance.Entries

/-!
# Issuance.Proofs.Entries

How setting and removing keys change the list of entries itself. Where no key stands twice, what is
found at a key is what stands there, whatever the order of the entries.
-/

namespace Issuance

namespace Entries

variable {κ ν : Type} [DecidableEq κ]

/-- A key that is not there is appended. -/
theorem set_of_get?_none {key : κ} {es : Entries κ ν} (h : get? key es = none) (value : ν) :
    set key value es = es ++ [(key, value)] := by
  induction es with
  | nil => rfl
  | cons e es ih =>
    obtain ⟨k, v⟩ := e
    rw [get?] at h
    split at h
    · cases h
    · rename_i hne
      rw [set, if_neg hne, ih h, List.cons_append]

/-- A key that is not among those before it is appended. -/
theorem set_of_nodup {key : κ} {es : Entries κ ν} {later : List κ}
    (h : (keys es ++ key :: later).Nodup) (value : ν) : set key value es = es ++ [(key, value)] := by
  refine set_of_get?_none ?_ value
  cases hget : get? key es with
  | none => rfl
  | some found =>
    have hmem : key ∈ keys es := mem_keys_iff.2 (by rw [hget]; rfl)
    exact absurd rfl ((List.nodup_append.1 h).2.2 key hmem key List.mem_cons_self)

/-- Removing a key that is not there changes nothing. -/
theorem erase_of_get?_none {key : κ} {es : Entries κ ν} (h : get? key es = none) :
    erase key es = es := by
  refine List.filter_eq_self.2 fun e he => decide_eq_true fun heq => ?_
  have hmem : key ∈ keys es := List.mem_map.2 ⟨e, he, heq⟩
  rw [mem_keys_iff, h] at hmem
  cases hmem

theorem mem_of_mem_erase {key : κ} {es : Entries κ ν} {e : κ × ν} (h : e ∈ erase key es) : e ∈ es :=
  (List.mem_filter.1 h).1

theorem nodup_keys_erase {es : Entries κ ν} (h : (keys es).Nodup) (key : κ) :
    (keys (erase key es)).Nodup :=
  h.sublist (List.filter_sublist.map _)

theorem erase_cons_self (key : κ) (value : ν) (es : Entries κ ν) :
    erase key ((key, value) :: es) = erase key es :=
  List.filter_cons_of_neg (by simp)

theorem erase_cons_of_ne {key other : κ} (hne : other ≠ key) (value : ν) (es : Entries κ ν) :
    erase key ((other, value) :: es) = (other, value) :: erase key es :=
  List.filter_cons_of_pos (by simp [hne])

/-- What was set at a key is gone when the key is removed. -/
theorem erase_set_self (key : κ) (value : ν) (es : Entries κ ν) :
    erase key (set key value es) = erase key es := by
  induction es with
  | nil => exact erase_cons_self key value []
  | cons e es ih =>
    obtain ⟨k, v⟩ := e
    rw [set]
    by_cases hk : k = key
    · rw [if_pos hk, hk, erase_cons_self, erase_cons_self]
    · rw [if_neg hk, erase_cons_of_ne hk, erase_cons_of_ne hk, ih]

/-- Keys are set and removed independently of each other. -/
theorem erase_set_of_ne {key other : κ} (hne : other ≠ key) (value : ν) (es : Entries κ ν) :
    erase key (set other value es) = set other value (erase key es) := by
  induction es with
  | nil => exact erase_cons_of_ne hne value []
  | cons e es ih =>
    obtain ⟨k, v⟩ := e
    rw [set]
    by_cases hk : k = other
    · subst hk
      rw [if_pos rfl, erase_cons_of_ne hne, erase_cons_of_ne hne, set, if_pos rfl]
    · rw [if_neg hk]
      by_cases hkey : k = key
      · rw [hkey, erase_cons_self, erase_cons_self, ih]
      · rw [erase_cons_of_ne hkey, erase_cons_of_ne hkey, ih, set, if_neg hk]

/-- Where two maps agree but for a key, they still do when the same is set in both. -/
theorem erase_set_congr {key : κ} {es es' : Entries κ ν} (h : erase key es = erase key es')
    (other : κ) (value : ν) : erase key (set other value es) = erase key (set other value es') := by
  by_cases hne : other = key
  · rw [hne, erase_set_self, erase_set_self, h]
  · rw [erase_set_of_ne hne, erase_set_of_ne hne, h]

theorem mem_of_get? {key : κ} {value : ν} {es : Entries κ ν} (h : get? key es = some value) :
    (key, value) ∈ es := by
  induction es with
  | nil => cases h
  | cons e es ih =>
    obtain ⟨k, v⟩ := e
    rw [get?] at h
    split at h
    · rename_i heq
      cases heq
      cases h
      exact List.mem_cons_self
    · exact List.mem_cons_of_mem _ (ih h)

/-- What stands at a key that stands there only once is found. -/
theorem get?_of_mem {key : κ} {value : ν} {es : Entries κ ν} (hnodup : (keys es).Nodup)
    (h : (key, value) ∈ es) : get? key es = some value := by
  induction es with
  | nil => cases h
  | cons e es ih =>
    obtain ⟨k, v⟩ := e
    obtain ⟨hnot, hnodup⟩ := List.nodup_cons.1 hnodup
    rw [get?]
    rcases List.mem_cons.1 h with heq | h
    · cases heq
      rw [if_pos rfl]
    · have hne : k ≠ key := by
        rintro rfl
        exact hnot (List.mem_map.2 ⟨_, h, rfl⟩)
      rw [if_neg hne, ih hnodup h]

/-- The order of entries does not matter to what is found. -/
theorem get?_of_perm {es es' : Entries κ ν} (hnodup : (keys es).Nodup) (h : es.Perm es')
    (key : κ) : get? key es' = get? key es := by
  have hnodup' : (keys es').Nodup := (h.map Prod.fst).nodup_iff.1 hnodup
  cases hget : get? key es with
  | some value => exact get?_of_mem hnodup' (h.mem_iff.1 (mem_of_get? hget))
  | none =>
    cases hget' : get? key es' with
    | none => rfl
    | some value =>
      rw [get?_of_mem hnodup (h.mem_iff.2 (mem_of_get? hget'))] at hget
      cases hget

/-- What is found among entries with their values changed. -/
theorem get?_map {μ : Type} (f : ν → μ) (key : κ) (es : Entries κ ν) :
    get? key (es.map fun e => (e.1, f e.2)) = (get? key es).map f := by
  induction es with
  | nil => rfl
  | cons e es ih =>
    obtain ⟨k, v⟩ := e
    rw [List.map_cons, get?, get?, ih]
    split <;> rfl

/-- What is found among entries with their values changed, key by key. -/
theorem get?_mapKeyed {μ : Type} (f : κ → ν → μ) (key : κ) (es : Entries κ ν) :
    get? key (es.map fun e => (e.1, f e.1 e.2)) = (get? key es).map (f key) := by
  induction es with
  | nil => rfl
  | cons e es ih =>
    obtain ⟨k, v⟩ := e
    rw [List.map_cons, get?, get?, ih]
    by_cases hk : k = key
    · rw [if_pos hk, if_pos hk, hk]
      rfl
    · rw [if_neg hk, if_neg hk]

theorem mapKeyed_set {μ : Type} (f : κ → ν → μ) (key : κ) (value : ν) (es : Entries κ ν) :
    ((set key value es).map fun e => (e.1, f e.1 e.2)) =
      set key (f key value) (es.map fun e => (e.1, f e.1 e.2)) := by
  induction es with
  | nil => rfl
  | cons e es ih =>
    obtain ⟨k, v⟩ := e
    rw [List.map_cons, set, set]
    by_cases hk : k = key
    · rw [if_pos hk, if_pos hk, List.map_cons]
    · rw [if_neg hk, if_neg hk, List.map_cons, ih]

/-- A key that is there is set in its place. -/
theorem exists_set_eq {key : κ} {found : ν} {es : Entries κ ν} (h : get? key es = some found) :
    ∃ before after : Entries κ ν, ∀ value, set key value es = before ++ (key, value) :: after := by
  induction es with
  | nil => cases h
  | cons e es ih =>
    obtain ⟨k, v⟩ := e
    rw [get?] at h
    by_cases hk : k = key
    · exact ⟨[], es, fun value => by rw [set, if_pos hk, List.nil_append]⟩
    · rw [if_neg hk] at h
      obtain ⟨before, after, heq⟩ := ih h
      exact ⟨(k, v) :: before, after, fun value => by
        rw [set, if_neg hk, heq, List.cons_append]⟩

/-- What is there after a key is set was there before, or is what was set. -/
theorem mem_of_mem_set {key : κ} {value : ν} {es : Entries κ ν} {e : κ × ν}
    (h : e ∈ set key value es) : e = (key, value) ∨ e ∈ es := by
  induction es with
  | nil => exact Or.inl (List.mem_singleton.1 h)
  | cons e' es ih =>
    obtain ⟨k, v⟩ := e'
    rw [set] at h
    split at h
    · rcases List.mem_cons.1 h with rfl | h
      · exact Or.inl rfl
      · exact Or.inr (List.mem_cons_of_mem _ h)
    · rcases List.mem_cons.1 h with rfl | h
      · exact Or.inr List.mem_cons_self
      · exact (ih h).imp_right (List.mem_cons_of_mem _)

/-- Setting entries one after the other adds none but these. -/
theorem mem_of_mem_ofList {es : List (κ × ν)} {e : κ × ν} (h : e ∈ ofList es) : e ∈ es := by
  have hfold : ∀ done : Entries κ ν,
      e ∈ es.foldl (fun acc e => set e.1 e.2 acc) done → e ∈ done ∨ e ∈ es := by
    clear h
    induction es with
    | nil => exact fun done h => Or.inl h
    | cons e' es ih =>
      intro done h
      rcases ih _ h with h | h
      · rcases mem_of_mem_set h with rfl | h
        · exact Or.inr List.mem_cons_self
        · exact Or.inl h
      · exact Or.inr (List.mem_cons_of_mem e' h)
  exact (hfold [] h).resolve_left List.not_mem_nil

/-- A key that is set to no more than one value has this value. -/
theorem get?_ofList {key : κ} {value : ν} {es : List (κ × ν)} (hmem : (key, value) ∈ es)
    (honly : ∀ other, (key, other) ∈ es → other = value) :
    get? key (ofList es) = some value := by
  have hfold : ∀ done : Entries κ ν, (key, value) ∈ es ∨ get? key done = some value →
      get? key (es.foldl (fun acc e => set e.1 e.2 acc) done) = some value := by
    clear hmem
    induction es with
    | nil => exact fun done h => h.resolve_left List.not_mem_nil
    | cons e es ih =>
      obtain ⟨k, v⟩ := e
      intro done h
      refine ih (fun other hother => honly other (List.mem_cons_of_mem _ hother)) _ ?_
      rw [get?_set]
      by_cases hkey : k = key
      · subst hkey
        rw [if_pos rfl, honly v List.mem_cons_self]
        exact Or.inr rfl
      · rw [if_neg hkey]
        refine h.imp_left fun hmem => (List.mem_cons.1 hmem).resolve_left ?_
        rintro heq
        exact hkey (congrArg Prod.fst heq).symm
  exact hfold [] (Or.inl hmem)

/-- Setting what is there changes nothing. -/
theorem set_of_get?_some {key : κ} {value : ν} {es : Entries κ ν} (h : get? key es = some value) :
    set key value es = es := by
  induction es with
  | nil => cases h
  | cons e es ih =>
    obtain ⟨k, v⟩ := e
    rw [get?] at h
    rw [set]
    by_cases hk : k = key
    · rw [if_pos hk] at h ⊢
      rw [Option.some.inj h, hk]
    · rw [if_neg hk] at h ⊢
      rw [ih h]

end Entries

end Issuance
