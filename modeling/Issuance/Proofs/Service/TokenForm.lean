import Issuance.Proofs.Entries
import Issuance.Proofs.Form
import Issuance.Proofs.Service.Exchange

/-!
# Issuance.Proofs.Service.TokenForm

**What the form of an exchange says.** A request is read from a body exactly where the body is text
and its form has the five parameters of the request, none of them empty (`ofPayload_eq_ok_iff`).
However the form is written and in whatever order, with whatever further parameters, the request is
read back (`ofPayload_of_spellsAll`): of several parameters with one name the last counts, but each
of the five stands there only once.
-/

namespace Issuance

/-- A body is text, given as it is or in UTF-8. -/
def Payload.IsText (body : Payload) (text : Text) : Prop :=
  body = .text text ∨ ∃ bs, body = .bytes bs ∧ Utf8.decode? bs = some text

namespace TokenRequest

variable {r : TokenRequest}

/-! ### Requests in a form -/

/-- A form has the parameters of a request, and none is empty. -/
def IsIn (r : TokenRequest) (form : Entries Text Text) : Prop :=
  ∀ p ∈ r.parameters, Entries.get? p.1 form = some p.2 ∧ p.2 ≠ []

theorem ofForm_eq_ok_iff_isIn {form : Entries Text Text} : ofForm form = .ok r ↔ r.IsIn form := by
  have hgrant : grantType ≠ [] := by decide
  have htype : assertionType ≠ [] := by decide
  rw [ofForm_eq_ok]
  unfold IsIn parameters
  simp only [List.forall_mem_cons, List.not_mem_nil, IsEmpty.forall_iff, implies_true,
    and_true]
  constructor
  · rintro ⟨redirectUri, code, assertion, grant, type⟩
    exact ⟨⟨grant, hgrant⟩, code, redirectUri, ⟨type, htype⟩, assertion⟩
  · rintro ⟨⟨grant, -⟩, code, redirectUri, ⟨type, -⟩, assertion⟩
    exact ⟨redirectUri, code, assertion, grant, type⟩

/-- There are no parameters in an empty form. -/
theorem not_isIn_empty : ¬ r.IsIn (Form.parameters []) := by
  intro h
  have hnone : Entries.get? ("grant_type" : Text) (Form.parameters []) = none := rfl
  cases hnone.symm.trans (h _ List.mem_cons_self).1

/-- **A request is read from a body exactly where it is in the form that the body is.** -/
theorem ofPayload_eq_ok_iff {body : Payload} :
    ofPayload body = .ok r ↔ ∃ text, body.IsText text ∧ r.IsIn (Form.parameters text) := by
  constructor
  · intro h
    unfold ofPayload at h
    obtain ⟨text, htext, hform⟩ := bind_eq_ok.1 h
    refine ⟨text, ?_, ofForm_eq_ok_iff_isIn.1 hform⟩
    unfold bodyText at htext
    split at htext
    any_goals cases htext
    · exact Or.inl rfl
    · rename_i bs _
      split at htext
      · rename_i hdecode
        cases htext
        exact Or.inr ⟨bs, rfl, hdecode⟩
      · cases htext
  · rintro ⟨text, rfl | ⟨bs, rfl, hdecode⟩, h⟩
    · cases text with
      | nil => exact absurd h not_isIn_empty
      | cons c text => exact ofForm_eq_ok_iff_isIn.2 h
    · refine ofPayload_bytes_eq_ok.2 ⟨text, ?_, hdecode, ofForm_eq_ok_iff_isIn.2 h⟩
      rintro rfl
      have hempty : Utf8.decode? [] = some [] := Utf8.decode?_ascii (t := []) rfl
      obtain rfl : [] = text := Option.some.inj (hempty.symm.trans hdecode)
      exact not_isIn_empty h

/-- Whatever is wrong with a form, it is an invalid request. -/
theorem Fault.kind_report (f : Fault) : f.report.kind = .invalidRequest := rfl

/-! ### Requests that are written -/

theorem nodup_names (r : TokenRequest) : (Entries.keys r.parameters).Nodup := by
  show (["grant_type", "code", "redirect_uri", "client_assertion_type", "client_assertion"] :
    List Text).Nodup
  decide

/-- The parameters of a request can be written where its values can. -/
theorem forall_mem_parameters
    (h : ∀ t ∈ [r.code, r.redirectUri, r.clientAssertion], t ≠ [] ∧ t.IsScalar) :
    ∀ p ∈ r.parameters, p.2 ≠ [] ∧ p.1.IsScalar ∧ p.2.IsScalar := by
  have hnames : ∀ name ∈ Entries.keys r.parameters, name.IsScalar := by
    show ∀ name ∈ (["grant_type", "code", "redirect_uri", "client_assertion_type",
      "client_assertion"] : List Text), name.IsScalar
    decide
  have hfixed : ∀ t ∈ [grantType, assertionType], t ≠ [] ∧ t.IsScalar := by decide
  have hvalues : ∀ p ∈ r.parameters, p.2 ≠ [] ∧ p.2.IsScalar := by
    simp only [List.forall_mem_cons, List.not_mem_nil, IsEmpty.forall_iff, implies_true,
    and_true] at h hfixed
    simp only [parameters, List.forall_mem_cons, List.not_mem_nil, IsEmpty.forall_iff, implies_true,
    and_true]
    exact ⟨hfixed.1, h.1, h.2.1, hfixed.2, h.2.2⟩
  exact fun p hp => ⟨(hvalues p hp).1, hnames p.1 (List.mem_map_of_mem hp), (hvalues p hp).2⟩

/-- The parameters of a request are found among others, if these have other names. -/
theorem isIn_of_perm {others ps : List (Text × Text)} (filled : ∀ p ∈ r.parameters, p.2 ≠ [])
    (apart : ∀ p ∈ others, p.1 ∉ Entries.keys r.parameters)
    (order : ps.Perm (r.parameters ++ others)) : r.IsIn (Entries.ofList ps) := by
  intro p hp
  have hmem : p ∈ ps := order.mem_iff.2 (List.mem_append_left others hp)
  refine ⟨Entries.get?_ofList hmem fun value hvalue => ?_, filled p hp⟩
  rcases List.mem_append.1 (order.mem_iff.1 hvalue) with hvalue | hvalue
  · have hfound := Entries.get?_of_mem (nodup_names r) hp
    rw [Entries.get?_of_mem (nodup_names r) hvalue] at hfound
    exact Option.some.inj hfound
  · exact absurd (List.mem_map_of_mem hp) (apart (p.1, value) hvalue)

/-- **A request that is written is read back**, from the text of its form and from the bytes. -/
theorem ofPayload_of_spellsAll {others ps : List (Text × Text)} {body : Text}
    (values : ∀ t ∈ [r.code, r.redirectUri, r.clientAssertion], t ≠ [] ∧ t.IsScalar)
    (apart : ∀ p ∈ others, p.1 ∉ Entries.keys r.parameters)
    (scalar : ∀ p ∈ others, p.1.IsScalar ∧ p.2.IsScalar)
    (order : ps.Perm (r.parameters ++ others)) (spelled : Form.SpellsAll body ps) :
    ∀ payload : Payload, payload.IsText body → ofPayload payload = .ok r := by
  intro payload hpayload
  have hparameters := forall_mem_parameters values
  have hscalar : ∀ p ∈ ps, p.1.IsScalar ∧ p.2.IsScalar := by
    intro p hp
    rcases List.mem_append.1 (order.mem_iff.1 hp) with hp | hp
    · exact (hparameters p hp).2
    · exact scalar p hp
  refine ofPayload_eq_ok_iff.2 ⟨body, hpayload, ?_⟩
  unfold Form.parameters
  rw [spelled.decode hscalar]
  exact isIn_of_perm (fun p hp => (hparameters p hp).1) apart order

/-- **The form of an exchange says the request, and nothing else does.** Take a request with three
values that are filled and can be encoded. A form that stands for its five parameters, in any order
and with any further parameters of other names anywhere, is read as this request, be it given as
text or in UTF-8. Of any body, a request is read exactly if the body is text and the last value of
each of the five parameters is the request's and not empty; and any other body is refused as an
invalid request. -/
theorem written_form_is_read_back :
    (∀ (r : TokenRequest) (others ps : List (Text × Text)) (body : Text),
      (∀ t ∈ [r.code, r.redirectUri, r.clientAssertion], t ≠ [] ∧ t.IsScalar) →
      (∀ p ∈ others, p.1 ∉ Entries.keys r.parameters ∧ p.1.IsScalar ∧ p.2.IsScalar) →
      ps.Perm (r.parameters ++ others) → Form.SpellsAll body ps →
      ofPayload (.text body) = .ok r ∧
        ∃ bs, Utf8.encode? body = some bs ∧ ofPayload (.bytes bs) = .ok r) ∧
    (∀ body r, ofPayload body = .ok r ↔
      ∃ text, body.IsText text ∧
        ∀ p ∈ r.parameters, Entries.get? p.1 (Form.parameters text) = some p.2 ∧ p.2 ≠ []) ∧
    ∀ body, (∃ r, ofPayload body = .ok r) ∨
      ∃ f, ofPayload body = .error f ∧ f.report.kind = .invalidRequest := by
  refine ⟨fun r others ps body values further order spelled => ?_,
    fun body r => ofPayload_eq_ok_iff, fun body => ?_⟩
  · have hread : ∀ payload : Payload, payload.IsText body → ofPayload payload = .ok r :=
      ofPayload_of_spellsAll values (fun p hp => (further p hp).1) (fun p hp => (further p hp).2)
        order spelled
    -- what is written is all in ASCII, so it has a form in UTF-8
    have hencoded := Utf8.encode?_of_isScalar (Text.isScalar_of_isAscii spelled.isAscii)
    exact ⟨hread _ (Or.inl rfl), _, hencoded,
      hread _ (Or.inr ⟨_, rfl, Utf8.decode?_encode? hencoded⟩)⟩
  · cases hresult : ofPayload body with
    | ok r => exact Or.inl ⟨r, rfl⟩
    | error f => exact Or.inr ⟨f, rfl, f.kind_report⟩

/-- A request with a code that is not in ASCII and has signs of a form in it. The form has a
parameter of its own twice, the five in another order, and digits of escapes in either case. -/
theorem shuffled_form_is_read_back :
    ofPayload (.text ("state=a&client_assertion=j&code=%C3%A9+%26%3d%2B&state=&" ++
      "grant_type=authorization_code&redirect_uri=r&client_assertion_type=" ++
      "urn%3aietf%3aparams%3aoauth%3aclient-assertion-type%3ajwt-bearer" : Text)) =
      .ok ⟨"é &=+", "r", "j"⟩ := by
  have values : ∀ t ∈ (["é &=+", "r", "j"] : List Text), t ≠ [] ∧ t.IsScalar := by decide
  have further : ∀ p ∈ ([("state", "a"), ("state", "")] : List (Text × Text)),
      p.1 ∉ Entries.keys (parameters ⟨"é &=+", "r", "j"⟩) ∧ p.1.IsScalar ∧ p.2.IsScalar := by decide
  have order : List.Perm ([("state", "a"), ("client_assertion", "j"), ("code", "é &=+"),
      ("state", ""), ("grant_type", grantType), ("redirect_uri", "r"),
      ("client_assertion_type", assertionType)] : List (Text × Text))
      (parameters ⟨"é &=+", "r", "j"⟩ ++
        ([("state", "a"), ("state", "")] : List (Text × Text))) := by
    decide
  have hcode : Form.Spells "%C3%A9+%26%3d%2B" "é &=+" :=
    .escaped (c := 'é') (e := "%C3%A9") (.cons rfl rfl (.cons rfl rfl .nil))
      (.space (.escaped (c := '&') (e := "%26") (.cons rfl rfl .nil)
        (.escaped (c := '=') (e := "%3d") (.cons rfl rfl .nil)
          (.escaped (c := '+') (e := "%2B") (.cons rfl rfl .nil) .nil))))
  have hcodeParameter : Form.SpellsParameter "code=%C3%A9+%26%3d%2B" ("code", "é &=+") :=
    ⟨"code", _, Form.spells_encodeText "code", hcode, rfl⟩
  have heach := List.Forall₂.cons (Form.spellsParameter_encodeParameter ("state", "a"))
    (.cons (Form.spellsParameter_encodeParameter ("client_assertion", "j")) (.cons hcodeParameter
      (.cons (Form.spellsParameter_encodeParameter ("state", ""))
        (.cons (Form.spellsParameter_encodeParameter ("grant_type", grantType))
          (.cons (Form.spellsParameter_encodeParameter ("redirect_uri", "r"))
            (.cons (Form.spellsParameter_encodeParameter ("client_assertion_type", assertionType))
              .nil))))))
  have hspelled : Form.SpellsAll ("state=a&client_assertion=j&code=%C3%A9+%26%3d%2B&state=&" ++
      "grant_type=authorization_code&redirect_uri=r&client_assertion_type=" ++
      "urn%3aietf%3aparams%3aoauth%3aclient-assertion-type%3ajwt-bearer" : Text) _ :=
    ⟨_, heach, by decide +kernel⟩
  exact (written_form_is_read_back.1 _ _ _ _ values further order hspelled).1

end TokenRequest

end Issuance
