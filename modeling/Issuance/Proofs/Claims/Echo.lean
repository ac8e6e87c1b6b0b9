import Issuance.Proofs.Claims.Redaction

/-!
# Issuance.Proofs.Claims.Echo

**What a report depends on.** The parser that redacts is the same for every reader and for every
list of sensitive fields (`guarded`), and shared claims are one case of it
(`parse_eq_guarded`). Two inputs that differ only in what is hidden, and there only within a shape,
are `Alike`. Their echoes are one value (`redact_of_alike`), and a report holds nothing else of its
input, so it is the same for both (`alike_inputs_are_reported_alike`).
-/

namespace Issuance

namespace Redaction

/-! ### What is hidden, and what is told of it -/

/-- What is hidden: the fields of the list, or every field where the list is empty or missing. -/
def Hidden (sensitive : Option (List Text)) (key : Text) : Prop :=
  sensitive = none ∨ sensitive = some [] ∨ ∃ names, sensitive = some names ∧ key ∈ names

theorem isSensitive_iff {sensitive : Option (List Text)} {key : Text} :
    isSensitive (sensitive.getD []) key = true ↔ Hidden sensitive key := by
  unfold Hidden
  cases sensitive with
  | none => simp [isSensitive]
  | some names => simp [isSensitive]

instance (sensitive : Option (List Text)) (key : Text) : Decidable (Hidden sensitive key) :=
  decidable_of_iff _ isSensitive_iff

/-- What is told of a hidden value. -/
inductive Shape
  | text
  | tree
  | scalar
  deriving DecidableEq

/-- The shape of a value. -/
def shape : Json → Shape
  | .str _ => .text
  | .arr _ | .obj _ => .tree
  | .null | .bool _ | .int _ | .float _ => .scalar

/-- A hidden value tells its shape, and nothing but its shape. -/
theorem hide_eq_iff {v w : Json} : hide v = hide w ↔ shape v = shape w := by
  cases v <;> cases w <;> simp [hide, shape]

/-! ### Inputs that differ in what is hidden -/

/-- Two members that are told apart neither by their keys nor by what is not hidden. -/
structure AlikeMember (sensitive : Option (List Text)) (m m' : Text × Json) : Prop where
  key : m.1 = m'.1
  hidden : Hidden sensitive m.1 → shape m.2 = shape m'.2
  told : ¬ Hidden sensitive m.1 → m.2 = m'.2

/-- Two inputs that differ in what is hidden only: objects with the same keys in the same order, or
two others of one shape. -/
inductive Alike (sensitive : Option (List Text)) : Json → Json → Prop
  | objects {members members' : List (Text × Json)}
      (alike : List.Forall₂ (AlikeMember sensitive) members members') :
      Alike sensitive (.obj members) (.obj members')
  | others {v w : Json} (other : Claims.members? v = none) (other' : Claims.members? w = none)
      (same : shape v = shape w) : Alike sensitive v w

theorem redact_obj (sensitive : List Text) (members : List (Text × Json)) :
    redact sensitive (.obj members) = .obj (shownMembers sensitive members) := rfl

theorem redact_of_other (sensitive : List Text) {v : Json} (other : Claims.members? v = none) :
    redact sensitive v = hide v := by
  cases v with
  | obj members => cases other
  | null | bool | int | float | str | arr => rfl

/-- The echo has one member for both. -/
theorem AlikeMember.shown {sensitive : Option (List Text)} {m m' : Text × Json}
    (h : AlikeMember sensitive m m') :
    (m.1, shownValue (sensitive.getD []) m.1 m.2) =
      (m'.1, shownValue (sensitive.getD []) m'.1 m'.2) := by
  rw [← h.key, Prod.mk.injEq]
  refine ⟨rfl, ?_⟩
  by_cases hidden : Hidden sensitive m.1
  · rw [shownValue, shownValue, if_pos (isSensitive_iff.2 hidden), if_pos (isSensitive_iff.2 hidden)]
    exact hide_eq_iff.2 (h.hidden hidden)
  · rw [h.told hidden]

/-- Inputs that differ in what is hidden have one echo. -/
theorem redact_of_alike {sensitive : Option (List Text)} {v w : Json}
    (h : Alike sensitive v w) :
    redact (sensitive.getD []) v = redact (sensitive.getD []) w := by
  cases h with
  | objects alike =>
    rw [redact_obj, redact_obj, Json.obj.injEq]
    induction alike with
    | nil => rfl
    | cons hmember _ ih => exact congrArg₂ List.cons hmember.shown ih
  | others other other' same =>
    rw [redact_of_other _ other, redact_of_other _ other']
    exact hide_eq_iff.2 same

/-! ### The echo of an object -/

/-- The members that are not hidden. -/
def toldMembers (sensitive : Option (List Text)) (members : List (Text × Json)) :
    List (Text × Json) :=
  members.filter fun m => ¬ Hidden sensitive m.1

/-- What the echo has for the members of an object: the same keys, the members that are not hidden
as they are, and of the others no more than asterisks, `null` or an empty object. -/
structure Echoes (sensitive : Option (List Text)) (members echoed : List (Text × Json)) :
    Prop where
  keys : Entries.keys echoed = Entries.keys members
  told : toldMembers sensitive echoed = toldMembers sensitive members
  hidden : ∀ m ∈ echoed, Hidden sensitive m.1 →
    m.2 = .str "******" ∨ m.2 = .null ∨ m.2 = .obj []

theorem toldMembers_shownMembers (sensitive : Option (List Text)) (members : List (Text × Json)) :
    toldMembers sensitive (shownMembers (sensitive.getD []) members) =
      toldMembers sensitive members := by
  induction members with
  | nil => rfl
  | cons m members ih =>
    have hcons : shownMembers (sensitive.getD []) (m :: members) =
        (m.1, shownValue (sensitive.getD []) m.1 m.2) ::
          shownMembers (sensitive.getD []) members := rfl
    unfold toldMembers at ih ⊢
    rw [hcons, List.filter_cons, List.filter_cons, ih]
    by_cases hidden : Hidden sensitive m.1
    · simp only [hidden, not_true_eq_false, decide_false, Bool.false_eq_true, if_false]
    · have hsame : shownValue (sensitive.getD []) m.1 m.2 = m.2 := by
        rw [shownValue, if_neg (mt isSensitive_iff.1 hidden)]
      rw [hsame]

theorem echoes_shownMembers (sensitive : Option (List Text)) (members : List (Text × Json)) :
    Echoes sensitive members (shownMembers (sensitive.getD []) members) where
  keys := keys_shownMembers _ _
  told := toldMembers_shownMembers _ _
  hidden := by
    intro m hm hidden
    obtain ⟨original, -, rfl⟩ := List.mem_map.1 hm
    show shownValue _ _ _ = _ ∨ shownValue _ _ _ = _ ∨ shownValue _ _ _ = _
    rw [shownValue, if_pos (isSensitive_iff.2 hidden)]
    exact hide_eq original.2

/-! ### Reports -/

/-- Reads a value with any reader, or reports one that cannot be read with a redacted echo of it. -/
def guarded {α : Type} (read? : Json → Option α) (sensitive : Option (List Text)) (v : Json) :
    Except Fault α :=
  match read? v with
  | some a => .ok a
  | none => .error (SharedClaims.unreadable (sensitive.getD []) v)

theorem parse_eq_guarded (sensitive : List Text) (v : Json) :
    SharedClaims.parse sensitive v = guarded SharedClaims.read? (some sensitive) v := by
  unfold SharedClaims.parse guarded
  cases SharedClaims.read? v <;> rfl

theorem guarded_eq_error {α : Type} {read? : Json → Option α} {sensitive : Option (List Text)}
    {v : Json} {report : Fault} (h : guarded read? sensitive v = .error report) :
    report = SharedClaims.unreadable (sensitive.getD []) v := by
  unfold guarded at h
  cases hread : read? v with
  | none =>
    rw [hread] at h
    exact (Except.error.inj h).symm
  | some a =>
    rw [hread] at h
    cases h

/-- **Inputs that differ in what is hidden are reported alike.** Let no more than the values of
hidden fields tell two inputs apart that cannot be read, whatever is to be read, and these only
within their shape; or let neither input be an object, and both have one shape. Then there is one
report for both. The report of an object has an echo of it in which every member that is not hidden
stands as it was, in its order. -/
theorem alike_inputs_are_reported_alike {α : Type} {read? : Json → Option α}
    {sensitive : Option (List Text)} {v w : Json} {report report' : Fault}
    (fails : guarded read? sensitive v = .error report)
    (fails' : guarded read? sensitive w = .error report') :
    (Alike sensitive v w → report = report') ∧
      ∀ members, v = .obj members → ∃ echoed, Echoes sensitive members echoed ∧
        report.message = SharedClaims.preamble ++ (Json.obj echoed).echo := by
  obtain rfl := guarded_eq_error fails
  obtain rfl := guarded_eq_error fails'
  constructor
  · intro alike
    unfold SharedClaims.unreadable
    rw [redact_of_alike alike]
  · rintro members rfl
    exact ⟨_, echoes_shownMembers sensitive members,
      SharedClaims.message_unreadable_obj (sensitive.getD []) members⟩

/-- Two addresses under a sensitive name, with a name that is told. -/
theorem addresses_are_reported_alike : ∃ report report',
    guarded SharedClaims.read? (some ["emailAddress"])
      (.obj (SharedClaims.addressed "emailAddress" "p@q")) = .error report ∧
    guarded SharedClaims.read? (some ["emailAddress"])
      (.obj (SharedClaims.addressed "emailAddress" "r@s")) = .error report' ∧
    report = report' ∧
    report.message = SharedClaims.preamble ++ "\x7b\"emailAddress\":\"******\",\"name\":5\x7d" := by
  have alike : Alike (some ["emailAddress"])
      (.obj (SharedClaims.addressed "emailAddress" "p@q"))
      (.obj (SharedClaims.addressed "emailAddress" "r@s")) := by
    refine .objects (.cons ⟨rfl, fun _ => rfl, fun told => ?_⟩
      (.cons ⟨rfl, fun _ => rfl, fun _ => rfl⟩ .nil))
    exact absurd (Or.inr (Or.inr ⟨_, rfl, List.mem_singleton.2 rfl⟩)) told
  have fails : guarded SharedClaims.read? (some ["emailAddress"])
      (.obj (SharedClaims.addressed "emailAddress" "p@q")) = .error _ := rfl
  have fails' : guarded SharedClaims.read? (some ["emailAddress"])
      (.obj (SharedClaims.addressed "emailAddress" "r@s")) = .error _ := rfl
  exact ⟨_, _, fails, fails', (alike_inputs_are_reported_alike fails fails').1 alike,
    by decide +kernel⟩

end Redaction

end Issuance
