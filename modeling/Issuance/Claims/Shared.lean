import Issuance.Claims.Coercion

/-!
# Issuance.Claims.Shared

**Shared claims** are what a client already knows about the person: names, dates of birth,
addresses, an email address and social security records. `SharedClaims.read?` takes them from a
JSON value, leniently: a field may go by its wire name or by its plain name, of which the wire
name wins, other fields are ignored, and numerals and dates are coerced. `SharedClaims.wire`
writes them under their wire names, leaving out what is absent.
-/

namespace Issuance

namespace Claims

/-- The names of a field: the one it has on the wire, and the plain one that is read as well. -/
structure FieldName where
  wire : Text
  plain : Text

namespace FieldName

/-- A field with one name only. -/
def single (name : Text) : FieldName := ⟨name, name⟩

/-- The value of a field among the members of an object. -/
def find? (field : FieldName) (members : List (Text × Json)) : Option Json :=
  match Entries.get? field.wire members with
  | some v => some v
  | none => Entries.get? field.plain members

end FieldName

/-- A field that must be there. -/
def required {α : Type} (read? : Json → Option α) (field : FieldName)
    (members : List (Text × Json)) : Option α :=
  (field.find? members).bind read?

/-- A field that may be missing or `null`. -/
def optional {α : Type} (read? : Json → Option α) (field : FieldName)
    (members : List (Text × Json)) : Option (Option α) :=
  match field.find? members with
  | none => some none
  | some .null => some none
  | some v => (read? v).map some

/-- The items of a list, if each can be read. -/
def items {α : Type} (read? : Json → Option α) : Json → Option (List α)
  | .arr vs => vs.mapM read?
  | _ => none

/-- A list that may be missing, and is then empty. -/
def listOf {α : Type} (read? : Json → Option α) (field : FieldName)
    (members : List (Text × Json)) : Option (List α) :=
  match field.find? members with
  | none => some []
  | some v => items read? v

/-- The members of an object. -/
def members? : Json → Option (List (Text × Json))
  | .obj ms => some ms
  | _ => none

/-- A text. -/
def text? : Json → Option Text
  | .str t => some t
  | _ => none

/-- An integer, leniently. -/
def integer? (v : Json) : Option Int := (Coercion.integer v).toOption

/-- An object of the fields that are present. -/
def object (fields : List (FieldName × Option Json)) : Json :=
  .obj (fields.filterMap fun (f, v) => v.map fun v => (f.wire, v))

/-- A date on the wire. -/
def wireDate (d : Date) : Json := .str d.text

end Claims

open Claims

/-- One part of a name, such as a given name, with its type. -/
structure NamePart where
  type : Text
  value : Text
  deriving DecidableEq

namespace NamePart

/-- Reads a name part. -/
def read? (v : Json) : Option NamePart := do
  let ms ← members? v
  let type ← required text? (.single "type") ms
  let value ← required text? (.single "value") ms
  some ⟨type, value⟩

/-- A name part on the wire. -/
def wire (p : NamePart) : Json :=
  object [(.single "type", some (.str p.type)), (.single "value", some (.str p.value))]

end NamePart

/-- A name as the list of its parts. -/
structure PersonName where
  parts : List NamePart
  deriving DecidableEq

namespace PersonName

/-- The one field of a name. -/
def partsField : FieldName := ⟨"nameParts", "name_parts"⟩

/-- Reads a name. -/
def read? (v : Json) : Option PersonName := do
  let ms ← members? v
  let parts ← required (items NamePart.read?) partsField ms
  some ⟨parts⟩

/-- A name on the wire. -/
def wire (n : PersonName) : Json := object [(partsField, some (.arr (n.parts.map NamePart.wire)))]

end PersonName

/-- A date of birth. -/
structure BirthDate where
  value : Date
  deriving DecidableEq

namespace BirthDate

/-- Reads a date of birth. -/
def read? (v : Json) : Option BirthDate := do
  let ms ← members? v
  let value ← required Coercion.date? (.single "value") ms
  some ⟨value⟩

/-- A date of birth on the wire. -/
def wire (b : BirthDate) : Json := object [(.single "value", some (wireDate b.value))]

end BirthDate

/-- A postal address with the time in which it is valid. Every part may be absent. -/
structure Address where
  uprn : Option Int
  organisationName : Option Text
  departmentName : Option Text
  subBuildingName : Option Text
  buildingNumber : Option Text
  buildingName : Option Text
  dependentStreetName : Option Text
  streetName : Option Text
  doubleDependentAddressLocality : Option Text
  dependentAddressLocality : Option Text
  addressLocality : Option Text
  postalCode : Option Text
  addressCountry : Option Text
  validFrom : Option Date
  validUntil : Option Date
  deriving DecidableEq

namespace Address

/-- The names of an address's fields. -/
def uprnField : FieldName := .single "uprn"
def organisationNameField : FieldName := ⟨"organisationName", "organisation_name"⟩
def departmentNameField : FieldName := ⟨"departmentName", "department_name"⟩
def subBuildingNameField : FieldName := ⟨"subBuildingName", "sub_building_name"⟩
def buildingNumberField : FieldName := ⟨"buildingNumber", "building_number"⟩
def buildingNameField : FieldName := ⟨"buildingName", "building_name"⟩
def dependentStreetNameField : FieldName := ⟨"dependentStreetName", "dependent_street_name"⟩
def streetNameField : FieldName := ⟨"streetName", "street_name"⟩
def doubleDependentAddressLocalityField : FieldName :=
  ⟨"doubleDependentAddressLocality", "double_dependent_address_locality"⟩
def dependentAddressLocalityField : FieldName :=
  ⟨"dependentAddressLocality", "dependent_address_locality"⟩
def addressLocalityField : FieldName := ⟨"addressLocality", "address_locality"⟩
def postalCodeField : FieldName := ⟨"postalCode", "postal_code"⟩
def addressCountryField : FieldName := ⟨"addressCountry", "address_country"⟩
def validFromField : FieldName := ⟨"validFrom", "valid_from"⟩
def validUntilField : FieldName := ⟨"validUntil", "valid_until"⟩

/-- Reads an address. -/
def read? (v : Json) : Option Address := do
  let ms ← members? v
  let uprn ← optional integer? uprnField ms
  let organisationName ← optional text? organisationNameField ms
  let departmentName ← optional text? departmentNameField ms
  let subBuildingName ← optional text? subBuildingNameField ms
  let buildingNumber ← optional text? buildingNumberField ms
  let buildingName ← optional text? buildingNameField ms
  let dependentStreetName ← optional text? dependentStreetNameField ms
  let streetName ← optional text? streetNameField ms
  let doubleDependentAddressLocality ← optional text? doubleDependentAddressLocalityField ms
  let dependentAddressLocality ← optional text? dependentAddressLocalityField ms
  let addressLocality ← optional text? addressLocalityField ms
  let postalCode ← optional text? postalCodeField ms
  let addressCountry ← optional text? addressCountryField ms
  let validFrom ← optional Coercion.date? validFromField ms
  let validUntil ← optional Coercion.date? validUntilField ms
  some {
    uprn, organisationName, departmentName, subBuildingName, buildingNumber, buildingName,
    dependentStreetName, streetName, doubleDependentAddressLocality, dependentAddressLocality,
    addressLocality, postalCode, addressCountry, validFrom, validUntil }

/-- An address on the wire. -/
def wire (a : Address) : Json :=
  object [
    (uprnField, a.uprn.map .int),
    (organisationNameField, a.organisationName.map .str),
    (departmentNameField, a.departmentName.map .str),
    (subBuildingNameField, a.subBuildingName.map .str),
    (buildingNumberField, a.buildingNumber.map .str),
    (buildingNameField, a.buildingName.map .str),
    (dependentStreetNameField, a.dependentStreetName.map .str),
    (streetNameField, a.streetName.map .str),
    (doubleDependentAddressLocalityField, a.doubleDependentAddressLocality.map .str),
    (dependentAddressLocalityField, a.dependentAddressLocality.map .str),
    (addressLocalityField, a.addressLocality.map .str),
    (postalCodeField, a.postalCode.map .str),
    (addressCountryField, a.addressCountry.map .str),
    (validFromField, a.validFrom.map wireDate),
    (validUntilField, a.validUntil.map wireDate)]

end Address

/-- A social security record. -/
structure SocialSecurityRecord where
  personalNumber : Text
  deriving DecidableEq

namespace SocialSecurityRecord

/-- The one field of a record. -/
def personalNumberField : FieldName := ⟨"personalNumber", "personal_number"⟩

/-- Reads a record. -/
def read? (v : Json) : Option SocialSecurityRecord := do
  let ms ← members? v
  let personalNumber ← required text? personalNumberField ms
  some ⟨personalNumber⟩

/-- A record on the wire. -/
def wire (r : SocialSecurityRecord) : Json :=
  object [(personalNumberField, some (.str r.personalNumber))]

end SocialSecurityRecord

/-- What a client already knows about the person. -/
structure SharedClaims where
  name : List PersonName
  birthDate : List BirthDate
  address : List Address
  emailAddress : Option Text
  socialSecurityRecord : List SocialSecurityRecord
  deriving DecidableEq

namespace SharedClaims

/-- The names of the fields of shared claims. -/
def nameField : FieldName := .single "name"
def birthDateField : FieldName := ⟨"birthDate", "birth_date"⟩
def addressField : FieldName := .single "address"
def emailAddressField : FieldName := ⟨"emailAddress", "email_address"⟩
def socialSecurityRecordField : FieldName := ⟨"socialSecurityRecord", "social_security_record"⟩

/-- All fields. -/
def fields : List FieldName :=
  [nameField, birthDateField, addressField, emailAddressField, socialSecurityRecordField]

/-- Reads shared claims. -/
def read? (v : Json) : Option SharedClaims := do
  let ms ← members? v
  let name ← listOf PersonName.read? nameField ms
  let birthDate ← listOf BirthDate.read? birthDateField ms
  let address ← listOf Address.read? addressField ms
  let emailAddress ← optional text? emailAddressField ms
  let socialSecurityRecord ← listOf SocialSecurityRecord.read? socialSecurityRecordField ms
  some { name, birthDate, address, emailAddress, socialSecurityRecord }

/-- Shared claims on the wire. -/
def wire (c : SharedClaims) : Json :=
  object [
    (nameField, some (.arr (c.name.map PersonName.wire))),
    (birthDateField, some (.arr (c.birthDate.map BirthDate.wire))),
    (addressField, some (.arr (c.address.map Address.wire))),
    (emailAddressField, c.emailAddress.map .str),
    (socialSecurityRecordField,
      some (.arr (c.socialSecurityRecord.map SocialSecurityRecord.wire)))]

end SharedClaims

end Issuance
