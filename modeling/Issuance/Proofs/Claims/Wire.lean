import Issuance.Claims.Redaction
import Issuance.Proofs.Claims.Calendar

/-!
# Issuance.Proofs.Claims.Wire

**The wire form of shared claims.** Claims are read leniently and written strictly: a field under
its wire name, nothing for what is absent, a date in its notation. What is written is one of the
spellings that are read, so it is read as the claims that were written (`SharedClaims.read?_wire`),
however they were spelled when they came.

The argument is the same for every record. No name of a field is another field's name on the wire
(`Unambiguous`), so each field is found in the written object as it was written
(`find?_present`), and a field is read from that if its values are (`Undoes`).
-/

namespace Issuance

namespace Claims

/-! ### The members of a written object -/

/-- The fields that are present, under their wire names. -/
def present (fields : List (FieldName × Option Json)) : List (Text × Json) :=
  fields.filterMap fun (f, v) => v.map fun v => (f.wire, v)

/-- No field has a name that is another's name on the wire. -/
def Unambiguous (names : List FieldName) : Prop :=
  names.Pairwise fun f g => f.wire ≠ g.wire ∧ f.plain ≠ g.wire ∧ f.wire ≠ g.plain

instance (names : List FieldName) : Decidable (Unambiguous names) :=
  inferInstanceAs (Decidable (names.Pairwise _))

theorem get?_present_of_ne {fields : List (FieldName × Option Json)} {key : Text}
    (h : ∀ e ∈ fields, e.1.wire ≠ key) : Entries.get? key (present fields) = none := by
  induction fields with
  | nil => rfl
  | cons e fields ih =>
    have hrest := ih fun e he => h e (List.mem_cons_of_mem _ he)
    obtain ⟨f, _ | v⟩ := e
    · exact hrest
    · show (if f.wire = key then some v else Entries.get? key (present fields)) = none
      rw [if_neg (h _ List.mem_cons_self), hrest]

theorem find?_cons_of_ne {field : FieldName} {key : Text} (hwire : key ≠ field.wire)
    (hplain : key ≠ field.plain) (v : Json) (members : List (Text × Json)) :
    field.find? ((key, v) :: members) = field.find? members := by
  simp only [FieldName.find?, Entries.get?, if_neg hwire, if_neg hplain]

/-- Each field is found as it was written. -/
theorem find?_present {fields : List (FieldName × Option Json)}
    (names : Unambiguous (fields.map Prod.fst)) :
    ∀ e ∈ fields, e.1.find? (present fields) = e.2 := by
  induction fields with
  | nil => exact fun _ he => (List.not_mem_nil he).elim
  | cons e fields ih =>
    obtain ⟨f, v⟩ := e
    obtain ⟨hothers, hrest⟩ := List.pairwise_cons.1 names
    have hother : ∀ e ∈ fields, f.wire ≠ e.1.wire ∧ f.plain ≠ e.1.wire ∧ f.wire ≠ e.1.plain :=
      fun e he => hothers e.1 (List.mem_map_of_mem he)
    intro e he
    rcases List.mem_cons.1 he with rfl | hin
    · cases v with
      | none =>
        -- no other field is written under one of the two names
        have hwire : Entries.get? f.wire (present fields) = none :=
          get?_present_of_ne fun e he => (hother e he).1.symm
        have hplain : Entries.get? f.plain (present fields) = none :=
          get?_present_of_ne fun e he => (hother e he).2.1.symm
        show f.find? (present fields) = none
        rw [FieldName.find?, hwire, hplain]
      | some v =>
        show f.find? ((f.wire, v) :: present fields) = some v
        simp only [FieldName.find?, Entries.get?, if_true]
    · cases v with
      | none => exact ih hrest e hin
      | some v =>
        exact (find?_cons_of_ne (hother e hin).1 (hother e hin).2.2 v _).trans (ih hrest e hin)

/-- What is written as an object has members in which each field is found as it was written. -/
theorem members?_object {v : Json} {fields : List (FieldName × Option Json)}
    (written : v = object fields) (names : Unambiguous (fields.map Prod.fst)) :
    ∃ members, members? v = some members ∧ ∀ e ∈ fields, e.1.find? members = e.2 := by
  subst written
  exact ⟨present fields, rfl, find?_present names⟩

/-! ### Reading what was written -/

/-- Reading undoes writing. -/
def Undoes {α : Type} (read? : Json → Option α) (write : α → Json) : Prop :=
  ∀ a, read? (write a) = some a

theorem undoes_text : Undoes text? .str := fun _ => rfl

theorem undoes_integer : Undoes integer? .int := fun _ => rfl

theorem undoes_date : Undoes Coercion.date? wireDate := by
  intro d
  have hread := d.readPrefix?_text []
  rw [List.append_nil] at hread
  have htext : Coercion.dateOfText? d.text = some d := by rw [Coercion.dateOfText?, hread]
  rw [wireDate, Coercion.date?, htext]

section

variable {α : Type} {read? : Json → Option α} {write : α → Json}

theorem Undoes.items (h : Undoes read? write) (as : List α) :
    items read? (.arr (as.map write)) = some as := by
  show (as.map write).mapM read? = some as
  induction as with
  | nil => rfl
  | cons a as ih => rw [List.map_cons, List.mapM_cons, h a, ih]; rfl

variable {field : FieldName} {members : List (Text × Json)}

theorem Undoes.required (h : Undoes read? write) {a : α}
    (found : field.find? members = some (write a)) :
    required read? field members = some a := by
  rw [Claims.required, found, Option.bind_some, h a]

/-- What is absent is not written, and nothing is written as `null`. -/
theorem Undoes.optional (h : Undoes read? write) (strict : read? .null = none) {a : Option α}
    (found : field.find? members = a.map write) :
    optional read? field members = some a := by
  rw [Claims.optional, found]
  cases a with
  | none => rfl
  | some a =>
    rw [Option.map_some]
    have hread := h a
    generalize write a = v at hread
    cases v with
    | null => rw [strict] at hread; cases hread
    | bool | int | float | str | arr | obj => dsimp only; rw [hread, Option.map_some]

theorem Undoes.listOf (h : Undoes read? write) {as : List α}
    (found : field.find? members = some (.arr (as.map write))) :
    listOf read? field members = some as := by
  rw [Claims.listOf, found]
  exact h.items as

end

/-- A chain of readings goes on with what is read. -/
theorem bind_of_read {α β : Type} {o : Option α} {a : α} {next : α → Option β} {b : β}
    (read : o = some a) (rest : next a = some b) : (o >>= next) = some b :=
  Option.bind_eq_some_iff.2 ⟨a, read, rest⟩

end Claims

open Claims

theorem NamePart.read?_wire : Undoes NamePart.read? NamePart.wire := by
  intro p
  have names : Unambiguous [.single "type", .single "value"] := by decide
  obtain ⟨ms, hms, hfind⟩ := members?_object (v := p.wire) rfl names
  simp only [List.forall_mem_cons] at hfind
  obtain ⟨htype, hvalue, -⟩ := hfind
  exact bind_of_read hms (bind_of_read (undoes_text.required htype)
    (bind_of_read (undoes_text.required hvalue) rfl))

theorem PersonName.read?_wire : Undoes PersonName.read? PersonName.wire := by
  intro n
  have names : Unambiguous [partsField] := by decide
  obtain ⟨ms, hms, hfind⟩ := members?_object (v := n.wire) rfl names
  simp only [List.forall_mem_cons] at hfind
  obtain ⟨hparts, -⟩ := hfind
  have hread : Undoes (items NamePart.read?) fun parts => .arr (parts.map NamePart.wire) :=
    NamePart.read?_wire.items
  exact bind_of_read hms (bind_of_read (hread.required hparts) rfl)

theorem BirthDate.read?_wire : Undoes BirthDate.read? BirthDate.wire := by
  intro b
  have names : Unambiguous [.single "value"] := by decide
  obtain ⟨ms, hms, hfind⟩ := members?_object (v := b.wire) rfl names
  simp only [List.forall_mem_cons] at hfind
  obtain ⟨hvalue, -⟩ := hfind
  exact bind_of_read hms (bind_of_read (undoes_date.required hvalue) rfl)

theorem SocialSecurityRecord.read?_wire :
    Undoes SocialSecurityRecord.read? SocialSecurityRecord.wire := by
  intro r
  have names : Unambiguous [personalNumberField] := by decide
  obtain ⟨ms, hms, hfind⟩ := members?_object (v := r.wire) rfl names
  simp only [List.forall_mem_cons] at hfind
  obtain ⟨hnumber, -⟩ := hfind
  exact bind_of_read hms (bind_of_read (undoes_text.required hnumber) rfl)

namespace Address

/-- All fields of an address. -/
def fields : List FieldName :=
  [uprnField, organisationNameField, departmentNameField, subBuildingNameField,
    buildingNumberField, buildingNameField, dependentStreetNameField, streetNameField,
    doubleDependentAddressLocalityField, dependentAddressLocalityField, addressLocalityField,
    postalCodeField, addressCountryField, validFromField, validUntilField]

theorem unambiguous_fields : Unambiguous fields := by decide +kernel

theorem read?_wire : Undoes read? wire := by
  intro a
  obtain ⟨ms, hms, hfind⟩ := members?_object (v := a.wire) rfl unambiguous_fields
  simp only [List.forall_mem_cons] at hfind
  obtain ⟨huprn, horganisation, hdepartment, hsubBuilding, hnumber, hbuilding, hdependentStreet,
    hstreet, hdoubleDependent, hdependent, hlocality, hpostal, hcountry, hfrom, huntil, -⟩ := hfind
  refine bind_of_read hms (bind_of_read (undoes_integer.optional rfl huprn) ?_)
  refine bind_of_read (undoes_text.optional rfl horganisation) ?_
  refine bind_of_read (undoes_text.optional rfl hdepartment) ?_
  refine bind_of_read (undoes_text.optional rfl hsubBuilding) ?_
  refine bind_of_read (undoes_text.optional rfl hnumber) ?_
  refine bind_of_read (undoes_text.optional rfl hbuilding) ?_
  refine bind_of_read (undoes_text.optional rfl hdependentStreet) ?_
  refine bind_of_read (undoes_text.optional rfl hstreet) ?_
  refine bind_of_read (undoes_text.optional rfl hdoubleDependent) ?_
  refine bind_of_read (undoes_text.optional rfl hdependent) ?_
  refine bind_of_read (undoes_text.optional rfl hlocality) ?_
  refine bind_of_read (undoes_text.optional rfl hpostal) ?_
  refine bind_of_read (undoes_text.optional rfl hcountry) ?_
  refine bind_of_read (undoes_date.optional rfl hfrom) ?_
  exact bind_of_read (undoes_date.optional rfl huntil) rfl

end Address

namespace SharedClaims

theorem unambiguous_fields : Unambiguous fields := by decide +kernel

/-- Shared claims are read from their wire form. -/
theorem read?_wire : Undoes read? wire := by
  intro c
  obtain ⟨ms, hms, hfind⟩ := members?_object (v := c.wire) rfl unambiguous_fields
  simp only [List.forall_mem_cons] at hfind
  obtain ⟨hname, hbirth, haddress, hemail, hrecord, -⟩ := hfind
  refine bind_of_read hms (bind_of_read (PersonName.read?_wire.listOf hname) ?_)
  refine bind_of_read (BirthDate.read?_wire.listOf hbirth) ?_
  refine bind_of_read (Address.read?_wire.listOf haddress) ?_
  refine bind_of_read (undoes_text.optional rfl hemail) ?_
  exact bind_of_read (SocialSecurityRecord.read?_wire.listOf hrecord) rfl

/-- **The wire form is stable.** Where a value is taken for claims, however its fields are named,
whatever else is in it and however its numerals and dates are spelled, the wire form of the claims
is taken for the same claims, and so it is its own wire form. -/
theorem wire_form_is_stable {sensitive : List Text} {v : Json} {c : SharedClaims}
    (taken : parse sensitive v = .ok c) :
    parse sensitive c.wire = .ok c ∧
      (parse sensitive c.wire).map wire = (parse sensitive v).map wire := by
  have hparse : parse sensitive c.wire = .ok c := by
    unfold parse
    rw [read?_wire c]
  exact ⟨hparse, by rw [hparse, taken]⟩

/-- Claims under plain names, with fields that are unknown or `null`, with a numeral in a text, a
floating-point number and a truth value for integers, and with a time stamp and moments at midnight
for dates. -/
def spelled : Json := .obj [
  ("version", .int 2),
  ("name", .arr [.obj [("name_parts", .arr [.obj [
    ("type", .str "GivenName"), ("value", .str "Ada"), ("order", .int 1)]])]]),
  ("birth_date", .arr [.obj [("value", .int 86400)], .obj [("value", .str "2000-02-29 00:00")]]),
  ("address", .arr [
    .obj [("uprn", .str " +7.0 "), ("postal_code", .str "p"), ("streetName", .null),
      ("valid_until", .str "2024-12-31T00:00:00Z")],
    .obj [("uprn", .float (.ofInt 12)), ("buildingName", .str "b"), ("building_name", .int 3)],
    .obj [("uprn", .bool true), ("validFrom", .float (.ofInt 0))]]),
  ("email_address", .null)]

/-- The wire form of these claims. -/
def spelledOnWire : Json := .obj [
  ("name", .arr [.obj [("nameParts", .arr [.obj [
    ("type", .str "GivenName"), ("value", .str "Ada")]])]]),
  ("birthDate", .arr [.obj [("value", .str "1970-01-02")], .obj [("value", .str "2000-02-29")]]),
  ("address", .arr [
    .obj [("uprn", .int 7), ("postalCode", .str "p"), ("validUntil", .str "2024-12-31")],
    .obj [("uprn", .int 12), ("buildingName", .str "b")],
    .obj [("uprn", .int 1), ("validFrom", .str "1970-01-01")]]),
  ("socialSecurityRecord", .arr [])]

/-- They are taken, and so is their wire form, for the same claims. -/
theorem spelled_claims_are_stable : ∃ c, parse [] spelled = .ok c ∧ c.wire = spelledOnWire ∧
    parse [] spelledOnWire = .ok c := by
  have hwritten : (read? spelled).map wire = some spelledOnWire := by decide +kernel
  obtain ⟨c, hread, hwire⟩ := Option.map_eq_some_iff.1 hwritten
  have taken : parse [] spelled = .ok c := by
    unfold parse
    rw [hread]
  exact ⟨c, taken, hwire, hwire ▸ (wire_form_is_stable taken).1⟩

end SharedClaims

end Issuance
