/-!
# Issuance.Entries

**Entries** are a finite map kept in the order in which its keys were first set: the members of
a JSON object, the parameters of a form, the stored sessions. `set` overwrites in place or
appends, so keys that are distinct stay distinct (`nodup_keys_set`).
-/

namespace Issuance

/-- Keys with their values, in the order of first setting. -/
abbrev Entries (κ ν : Type) := List (κ × ν)

namespace Entries

variable {κ ν : Type} [DecidableEq κ]

/-- The value at a key. -/
def get? (key : κ) : Entries κ ν → Option ν
  | [] => none
  | (k, v) :: rest => if k = key then some v else get? key rest

/-- Overwrites the value at a key, or appends the key. -/
def set (key : κ) (value : ν) : Entries κ ν → Entries κ ν
  | [] => [(key, value)]
  | (k, v) :: rest => if k = key then (key, value) :: rest else (k, v) :: set key value rest

/-- Removes a key. -/
def erase (key : κ) (es : Entries κ ν) : Entries κ ν := es.filter fun e => e.1 ≠ key

/-- The keys in order. -/
def keys (es : Entries κ ν) : List κ := es.map Prod.fst

/-- Sets the keys one after the other. -/
def ofList (es : List (κ × ν)) : Entries κ ν := es.foldl (fun acc e => set e.1 e.2 acc) []

@[simp] theorem get?_nil (key : κ) : get? key ([] : Entries κ ν) = none := rfl

theorem get?_set (key other : κ) (value : ν) (es : Entries κ ν) :
    get? other (set key value es) = if key = other then some value else get? other es := by
  induction es with
  | nil => simp [set, get?]
  | cons e rest ih =>
    obtain ⟨k, v⟩ := e
    simp only [set]
    by_cases hk : k = key
    · subst hk
      simp only [if_true, get?]
      by_cases ho : k = other <;> simp [ho]
    · simp only [hk, if_false, get?, ih]
      by_cases ho : k = other
      · subst ho
        simp [Ne.symm hk]
      · simp [ho]

@[simp] theorem get?_set_self (key : κ) (value : ν) (es : Entries κ ν) :
    get? key (set key value es) = some value := by simp [get?_set]

theorem get?_erase (key other : κ) (es : Entries κ ν) :
    get? other (erase key es) = if key = other then none else get? other es := by
  induction es with
  | nil => simp [erase, get?]
  | cons e rest ih =>
    obtain ⟨k, v⟩ := e
    simp only [erase, ne_eq, decide_not] at ih ⊢
    by_cases hk : k = key
    · subst hk
      simp only [List.filter_cons, decide_true, Bool.not_true, Bool.false_eq_true, if_false, ih,
        get?]
      by_cases ho : k = other <;> simp [ho]
    · simp only [List.filter_cons, hk, decide_false, Bool.not_false, if_true, get?, ih]
      by_cases ho : k = other
      · subst ho
        simp [Ne.symm hk]
      · simp [ho]

theorem mem_keys_iff {key : κ} {es : Entries κ ν} : key ∈ keys es ↔ (get? key es).isSome := by
  induction es with
  | nil => simp [keys, get?]
  | cons e rest ih =>
    obtain ⟨k, v⟩ := e
    simp only [keys, List.map_cons, List.mem_cons, get?] at ih ⊢
    by_cases hk : k = key
    · simp [hk]
    · simp [hk, Ne.symm hk, ih]

omit [DecidableEq κ] in
/-- Entries that are found for keys, each under its own key, have these keys in their order. -/
theorem sublist_keys_filterMap {find : κ → Option (κ × ν)}
    (hfind : ∀ key e, find key = some e → e.1 = key) (ks : List κ) :
    (keys (ks.filterMap find)).Sublist ks := by
  induction ks with
  | nil => exact .slnil
  | cons key ks ih =>
    rw [List.filterMap_cons]
    split
    · exact ih.cons key
    · rename_i e he
      rw [← hfind key e he]
      exact ih.cons_cons e.1

theorem keys_set (key : κ) (value : ν) (es : Entries κ ν) :
    keys (set key value es) = if key ∈ keys es then keys es else keys es ++ [key] := by
  induction es with
  | nil => simp [keys, set]
  | cons e rest ih =>
    obtain ⟨k, v⟩ := e
    simp only [keys, set, List.map_cons, List.mem_cons] at ih ⊢
    by_cases hk : k = key
    · simp [hk]
    · simp only [hk, if_false, List.map_cons, ih, Ne.symm hk, false_or]
      split <;> simp_all

theorem nodup_keys_set {es : Entries κ ν} (h : (keys es).Nodup) (key : κ) (value : ν) :
    (keys (set key value es)).Nodup := by
  rw [keys_set]
  split
  · exact h
  · rename_i hmem
    refine List.nodup_append.2 ⟨h, by simp, ?_⟩
    intro a ha b hb
    simp only [List.mem_singleton] at hb
    subst hb
    exact fun hab => hmem (hab ▸ ha)

end Entries

end Issuance
