import Issuance.Claims.Redaction
import Issuance.Proofs.Entries
import Issuance.Proofs.Json.Writer

/-!
# Issuance.Proofs.Claims.Redaction

**What a report of unreadable shared claims gives away.** It holds an echo of the input, in which
a sensitive field shows no more than the kind of its value: `hide` makes one value of all those of
a kind (`hide_of_kind`), so the report is the same for all of them (`conceals_of_isSensitive`).

The fields that are sensitive unless others are configured are named as they are on the wire, but
each is also read under its plain name. Under that name it is not sensitive, and its value stands
in the report (`conceals_iff`, `plain_name_is_shown`).
-/

namespace Issuance

namespace Json

/-! ### Kinds of values -/

/-- The kinds of values. -/
inductive Kind
  | null
  | bool
  | number
  | text
  | list
  | object
  deriving DecidableEq

/-- The kind of a value. -/
def kind : Json → Kind
  | .null => .null
  | .bool _ => .bool
  | .int _ | .float _ => .number
  | .str _ => .text
  | .arr _ => .list
  | .obj _ => .object

theorem eq_null_of_kind {v : Json} (h : v.kind = .null) : v = .null := by
  cases v with
  | null => rfl
  | bool | int | float | str | arr | obj => cases h

/-- Two values of a kind, unless there is only one. -/
def specimen : Kind → Bool → Json
  | .null, _ => .null
  | .bool, b => .bool b
  | .number, b => .int (if b then 1 else 0)
  | .text, b => .str (if b then "a" else [])
  | .list, b => .arr (.null :: if b then [.null] else [])
  | .object, b => .obj (if b then [([], .null)] else [])

theorem kind_specimen (k : Kind) (b : Bool) : (specimen k b).kind = k := by
  cases k <;> rfl

/-- They can be told apart by their texts. -/
theorem echo_specimen_ne {k : Kind} (h : k ≠ .null) :
    (specimen k true).echo ≠ (specimen k false).echo := by
  cases k with
  | null => exact absurd rfl h
  | number =>
    intro heq
    have hvalue : Text.digitsValue (Text.ofNat 1) = Text.digitsValue (Text.ofNat 0) :=
      congrArg Text.digitsValue heq
    rw [Text.digitsValue_ofNat, Text.digitsValue_ofNat] at hvalue
    cases hvalue
  | bool | text | list | object => decide

/-! ### The echo of an object -/

/-- The text of an object has the text of each value in it. -/
theorem echo_set {key : Text} {v : Json} {members : List (Text × Json)}
    (h : Entries.get? key members = some v) : ∃ before after, ∀ w,
      (Json.obj (Entries.set key w members)).echo = before ++ w.echo ++ after := by
  obtain ⟨before, after, hset⟩ := Entries.exists_set_eq h
  let text := fun m : Text × Json => (writtenMember .echo m).2
  obtain ⟨first, last, hjoined⟩ :=
    Text.exists_joined_eq "," (before.map text) (after.map text)
  refine ⟨"\x7b" ++ first ++ (writeString true key ++ ":"), last ++ "\x7d", fun w => ?_⟩
  have hwritten : ((Style.arrange .echo (writeMembers .echo (Entries.set key w members))).map
      Prod.snd) = before.map text ++ text (key, w) :: after.map text := by
    rw [Style.arrange, if_neg (by decide), writeMembers_eq, hset, List.map_map, List.map_append,
      List.map_cons]
    rfl
  rw [echo, write, hwritten, hjoined]
  simp only [text, writtenMember, Style.echo, List.append_assoc]
  rfl

end Json

namespace Redaction

/-! ### Hidden values and others -/

/-- What is shown of a hidden value of some kind. -/
def mask : Json.Kind → Json
  | .text => .str "******"
  | .list | .object => .obj []
  | .null | .bool | .number => .null

theorem hide_eq_mask (v : Json) : hide v = mask v.kind := by cases v <;> rfl

/-- Hidden values of a kind look the same. -/
theorem hide_of_kind {v w : Json} (h : v.kind = w.kind) : hide v = hide w := by
  rw [hide_eq_mask, hide_eq_mask, h]

/-- All that is shown of any hidden value. -/
theorem hide_eq (v : Json) : hide v = .str "******" ∨ hide v = .null ∨ hide v = .obj [] := by
  rw [hide_eq_mask]
  cases v.kind with
  | text => exact Or.inl rfl
  | null | bool | number => exact Or.inr (Or.inl rfl)
  | list | object => exact Or.inr (Or.inr rfl)

/-- What the echo has for a field. -/
def shownValue (sensitive : List Text) (key : Text) (v : Json) : Json :=
  if isSensitive sensitive key then hide v else v

/-- What the echo has for the members of an object. -/
def shownMembers (sensitive : List Text) (members : List (Text × Json)) : List (Text × Json) :=
  members.map fun m => (m.1, shownValue sensitive m.1 m.2)

theorem keys_shownMembers (sensitive : List Text) (members : List (Text × Json)) :
    Entries.keys (shownMembers sensitive members) = Entries.keys members := by
  rw [Entries.keys, shownMembers, List.map_map]
  rfl

theorem get?_shownMembers (sensitive : List Text) (key : Text) (members : List (Text × Json)) :
    Entries.get? key (shownMembers sensitive members) =
      (Entries.get? key members).map (shownValue sensitive key) :=
  Entries.get?_mapKeyed (shownValue sensitive) key members

theorem shownMembers_set (sensitive : List Text) (key : Text) (v : Json)
    (members : List (Text × Json)) : shownMembers sensitive (Entries.set key v members) =
      Entries.set key (shownValue sensitive key v) (shownMembers sensitive members) :=
  Entries.mapKeyed_set (shownValue sensitive) key v members

end Redaction

/-! ### Reading with one value replaced -/

namespace Claims

/-- A value put in the place of another is what is found for a field where the other was. -/
theorem FieldName.find?_set {key : Text} {v : Json} {members : List (Text × Json)}
    (h : Entries.get? key members = some v) (field : FieldName) (w : Json) :
    field.find? (Entries.set key w members) = field.find? members ∨
      field.find? (Entries.set key w members) = some w ∧ field.find? members = some v := by
  unfold find?
  rw [Entries.get?_set, Entries.get?_set]
  by_cases hwire : key = field.wire
  · rw [if_pos hwire, ← hwire, h]
    exact Or.inr ⟨rfl, rfl⟩
  · rw [if_neg hwire]
    cases hget : Entries.get? field.wire members with
    | some found => exact Or.inl rfl
    | none =>
      by_cases hplain : key = field.plain
      · rw [if_pos hplain, ← hplain, h]
        exact Or.inr ⟨rfl, rfl⟩
      · rw [if_neg hplain]
        exact Or.inl rfl

/-- A specimen is no list of items that can be read. -/
theorem items_specimen {α : Type} {read? : Json → Option α} (hnull : read? .null = none)
    (k : Json.Kind) (b : Bool) : items read? (Json.specimen k b) = none := by
  cases k with
  | list => simp [Json.specimen, items, hnull]
  | null | bool | number | text | object => rfl

theorem listOf_specimen {α : Type} {read? : Json → Option α} (hnull : read? .null = none)
    {key : Text} {v : Json} {members : List (Text × Json)} (h : Entries.get? key members = some v)
    {field : FieldName} {k : Json.Kind} {b : Bool}
    (hread : (listOf read? field (Entries.set key (Json.specimen k b) members)).isSome) :
    (listOf read? field members).isSome := by
  unfold listOf at hread ⊢
  rcases field.find?_set h (Json.specimen k b) with hfound | ⟨hfound, -⟩
  · rwa [hfound] at hread
  · rw [hfound] at hread
    have hread : (items read? (Json.specimen k b)).isSome := hread
    rw [items_specimen hnull] at hread
    cases hread

theorem optional_text_specimen {key : Text} {v : Json} {members : List (Text × Json)}
    (h : Entries.get? key members = some v) (hne : v ≠ .null) {field : FieldName} {b : Bool}
    (hread : (optional text? field (Entries.set key (Json.specimen v.kind b) members)).isSome) :
    (optional text? field members).isSome := by
  unfold optional at hread ⊢
  rcases field.find?_set h (Json.specimen v.kind b) with hfound | ⟨hfound, hfound'⟩
  · rwa [hfound] at hread
  · rw [hfound] at hread
    rw [hfound']
    cases v with
    | str => rfl
    | null => exact absurd rfl hne
    | bool | int | float | arr | obj => cases hread

end Claims

namespace SharedClaims

open Claims

/-- Shared claims are read when each of their fields is. -/
theorem isSome_read?_obj (members : List (Text × Json)) : (read? (.obj members)).isSome ↔
    (listOf PersonName.read? nameField members).isSome ∧
    (listOf BirthDate.read? birthDateField members).isSome ∧
    (listOf Address.read? addressField members).isSome ∧
    (optional text? emailAddressField members).isSome ∧
    (listOf SocialSecurityRecord.read? socialSecurityRecordField members).isSome := by
  have hany : ∀ {α : Type} (o : Option α) (b : Bool), o.any (fun _ => b) = (o.isSome && b) := by
    intro α o b
    cases o <;> rfl
  simp only [read?, members?, Option.bind_eq_bind, Option.bind_some, Option.isSome_bind,
    Option.isSome_some, hany, Bool.and_true, Bool.and_eq_true]

/-- Claims that cannot be read still cannot with a specimen in the place of a value of its kind. -/
theorem read?_specimen {key : Text} {v : Json} {members : List (Text × Json)}
    (h : Entries.get? key members = some v) (hne : v ≠ .null)
    (hread : read? (.obj members) = none) (b : Bool) :
    read? (.obj (Entries.set key (Json.specimen v.kind b) members)) = none := by
  refine Option.not_isSome_iff_eq_none.1 fun hsome => ?_
  obtain ⟨hname, hbirth, haddress, hemail, hrecord⟩ := (isSome_read?_obj _).1 hsome
  have hmembers : (read? (.obj members)).isSome :=
    (isSome_read?_obj members).2 ⟨listOf_specimen rfl h hname, listOf_specimen rfl h hbirth,
      listOf_specimen rfl h haddress, optional_text_specimen h hne hemail,
      listOf_specimen rfl h hrecord⟩
  rw [hread] at hmembers
  cases hmembers

/-! ### What a report conceals -/

/-- How a report of unreadable claims begins. -/
def preamble : Text := "Error while deserializing object. Some PII fields were redacted. "

theorem parse_eq_error {sensitive : List Text} {v : Json} {report : Fault} :
    parse sensitive v = .error report ↔ read? v = none ∧ report = unreadable sensitive v := by
  unfold parse
  cases read? v with
  | none =>
    rw [Except.error.injEq]
    exact ⟨fun h => ⟨rfl, h.symm⟩, fun h => h.2.symm⟩
  | some c => exact ⟨(nomatch ·), fun h => nomatch h.1⟩

theorem message_unreadable_obj (sensitive : List Text) (members : List (Text × Json)) :
    (unreadable sensitive (.obj members)).message =
      preamble ++ (Json.obj (Redaction.shownMembers sensitive members)).echo := rfl

/-- A report of claims that cannot be read conceals the value of a key: the echo of the claims shows
asterisks, `null` or an empty object for it, and is the same for any other value of that kind with
which the claims cannot be read. -/
structure Conceals (sensitive : List Text) (members : List (Text × Json)) (key : Text)
    (report : Fault) : Prop where
  shown : ∃ echoed, report.message = preamble ++ (Json.obj echoed).echo ∧
    Entries.keys echoed = Entries.keys members ∧
    ∃ v, Entries.get? key echoed = some v ∧ (v = .str "******" ∨ v = .null ∨ v = .obj [])
  unchanged : ∀ v w other, Entries.get? key members = some v → w.kind = v.kind →
    parse sensitive (.obj (Entries.set key w members)) = .error other →
      other.message = report.message

section

variable {sensitive : List Text} {members : List (Text × Json)} {key : Text} {v : Json}
  {report : Fault}

/-- A value is concealed where the echo makes one of all values of its kind. -/
theorem conceals_of_shownValue (fails : parse sensitive (.obj members) = .error report)
    (stated : Entries.get? key members = some v)
    (one : ∀ w : Json, w.kind = v.kind →
      Redaction.shownValue sensitive key w = Redaction.hide v) :
    Conceals sensitive members key report := by
  obtain ⟨-, rfl⟩ := parse_eq_error.1 fails
  have hshown : Entries.get? key (Redaction.shownMembers sensitive members) =
      some (Redaction.hide v) := by
    rw [Redaction.get?_shownMembers, stated, Option.map_some, one v rfl]
  refine ⟨⟨_, message_unreadable_obj sensitive members,
    Redaction.keys_shownMembers sensitive members, _, hshown, Redaction.hide_eq v⟩, ?_⟩
  intro v' w other hget hkind hparse
  rw [stated] at hget
  obtain rfl := Option.some.inj hget
  obtain ⟨-, rfl⟩ := parse_eq_error.1 hparse
  rw [message_unreadable_obj, message_unreadable_obj, Redaction.shownMembers_set, one w hkind,
    Entries.set_of_get?_some hshown]

/-- A value of a sensitive field is concealed. -/
theorem conceals_of_isSensitive (fails : parse sensitive (.obj members) = .error report)
    (stated : Entries.get? key members = some v)
    (hsensitive : Redaction.isSensitive sensitive key = true) :
    Conceals sensitive members key report := by
  refine conceals_of_shownValue fails stated fun w hkind => ?_
  rw [Redaction.shownValue, if_pos hsensitive]
  exact Redaction.hide_of_kind hkind

/-- There is nothing to conceal in `null`. -/
theorem conceals_of_null (fails : parse sensitive (.obj members) = .error report)
    (stated : Entries.get? key members = some .null) : Conceals sensitive members key report := by
  refine conceals_of_shownValue fails stated fun w hkind => ?_
  rw [Json.eq_null_of_kind hkind, Redaction.shownValue]
  split <;> rfl

/-- Any other value of a field that is not sensitive is given away. -/
theorem not_conceals (fails : parse sensitive (.obj members) = .error report)
    (stated : Entries.get? key members = some v) (hne : v ≠ .null)
    (hsensitive : Redaction.isSensitive sensitive key = false) :
    ¬ Conceals sensitive members key report := by
  intro conceals
  obtain ⟨hread, -⟩ := parse_eq_error.1 fails
  have hkind : v.kind ≠ .null := fun h => hne (Json.eq_null_of_kind h)
  have hshown : Entries.get? key (Redaction.shownMembers sensitive members) = some v := by
    rw [Redaction.get?_shownMembers, stated, Option.map_some, Redaction.shownValue, hsensitive,
      if_neg Bool.false_ne_true]
  obtain ⟨before, after, hecho⟩ := Json.echo_set hshown
  -- the report has the text of a specimen between two others that do not depend on it
  have hreport : ∀ b, report.message =
      preamble ++ (before ++ (Json.specimen v.kind b).echo ++ after) := by
    intro b
    have hsame := conceals.unchanged v (Json.specimen v.kind b) _ stated (Json.kind_specimen _ b)
      (parse_eq_error.2 ⟨read?_specimen stated hne hread b, rfl⟩)
    rw [← hsame, message_unreadable_obj, Redaction.shownMembers_set, Redaction.shownValue,
      hsensitive, if_neg Bool.false_ne_true, hecho]
  have hspecimens := (hreport true).symm.trans (hreport false)
  rw [List.append_cancel_left_eq, List.append_cancel_right_eq, List.append_cancel_left_eq]
    at hspecimens
  exact Json.echo_specimen_ne hkind hspecimens

theorem conceals_iff_isSensitive (fails : parse sensitive (.obj members) = .error report)
    (stated : Entries.get? key members = some v) : Conceals sensitive members key report ↔
      Redaction.isSensitive sensitive key = true ∨ v = .null := by
  refine ⟨fun conceals => ?_, ?_⟩
  · by_contra hnot
    obtain ⟨hsensitive, hne⟩ := not_or.1 hnot
    exact not_conceals fails stated hne (Bool.not_eq_true _ ▸ hsensitive) conceals
  · rintro (hsensitive | rfl)
    · exact conceals_of_isSensitive fails stated hsensitive
    · exact conceals_of_null fails stated

end

/-- The sensitive names are the wire names, and no field's plain name is another's wire name. -/
theorem isSensitive_default {field : Claims.FieldName} (hfield : field ∈ fields) {key : Text}
    (named : key = field.wire ∨ key = field.plain) :
    Redaction.isSensitive defaultSensitive key = true ↔ key = field.wire := by
  have hwire : ∀ f ∈ fields, Redaction.isSensitive defaultSensitive f.wire = true := by decide
  have hplain : ∀ f ∈ fields, Redaction.isSensitive defaultSensitive f.plain = true →
      f.plain = f.wire := by decide
  rcases named with rfl | rfl
  · exact iff_of_true (hwire field hfield) rfl
  · exact ⟨hplain field hfield, fun h => h ▸ hwire field hfield⟩

/-- **A report conceals what goes by a wire name, and nothing else.** Where claims cannot be read,
the value of a field is concealed just if its key is the field's wire name or there is nothing to
conceal. What the field holds under a plain name of its own is told. -/
theorem conceals_iff {field : Claims.FieldName} {members : List (Text × Json)} {key : Text}
    {v : Json} {report : Fault} (declared : field ∈ fields)
    (named : key = field.wire ∨ key = field.plain)
    (stated : Entries.get? key members = some v)
    (fails : parse defaultSensitive (.obj members) = .error report) :
    Conceals defaultSensitive members key report ↔ key = field.wire ∨ v = .null := by
  rw [conceals_iff_isSensitive fails stated, isSensitive_default declared named]

/-- An email address under some key, with a name that is no list. -/
def addressed (key address : Text) : List (Text × Json) := [(key, .str address), ("name", .int 5)]

/-- Under its wire name the address is concealed. -/
theorem wire_name_is_concealed : ∃ report,
    parse defaultSensitive (.obj (addressed "emailAddress" "p@q")) = .error report ∧
      emailAddressField ∈ fields ∧
      Entries.get? emailAddressField.wire (addressed "emailAddress" "p@q") = some (.str "p@q") ∧
      Conceals defaultSensitive (addressed "emailAddress" "p@q") emailAddressField.wire report := by
  have declared : emailAddressField ∈ fields := by simp [fields]
  exact ⟨_, rfl, declared, rfl, (conceals_iff declared (Or.inl rfl) rfl rfl).2 (Or.inl rfl)⟩

/-- Under its plain name the address is read as well, and the report tells it. -/
theorem plain_name_is_shown : ∃ report,
    parse defaultSensitive (.obj (addressed "email_address" "p@q")) = .error report ∧
      emailAddressField.find? (addressed "email_address" "p@q") = some (.str "p@q") ∧
      report.message = preamble ++ "\x7b\"email_address\":\"p@q\",\"name\":null\x7d" ∧
      ¬ Conceals defaultSensitive (addressed "email_address" "p@q") emailAddressField.plain
        report := by
  refine ⟨unreadable defaultSensitive (.obj (addressed "email_address" "p@q")), rfl, rfl,
    by decide +kernel, fun conceals => ?_⟩
  have hother : parse defaultSensitive (.obj (addressed "email_address" "r@s")) =
      .error (unreadable defaultSensitive (.obj (addressed "email_address" "r@s"))) := rfl
  have hsame := conceals.unchanged (.str "p@q") (.str "r@s") _ rfl rfl hother
  revert hsame
  decide +kernel

end SharedClaims

end Issuance
