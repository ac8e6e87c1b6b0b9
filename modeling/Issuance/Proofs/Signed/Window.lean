import Issuance.Proofs.Json.Quantity
import Issuance.Proofs.Service.Journey

/-!
# Issuance.Proofs.Signed.Window

**When a token is good.** The times of a token are judged by what speaks against it: an expiry that
is not later than now, a beginning or an issue that is. For quantities this is the window that the
times open (`inWindow_iff`). Outside of them it is not: nothing speaks against `NaN`, so that a
token whose expiry it is never expires, and before any time is looked at, a required zero passes for
an empty value. In these two cases, and in no other, a token that is otherwise in order is not
judged by its window (`window_judged_iff`).
-/

namespace Issuance

namespace SignedToken

/-! ### What passes for a time -/

/-- A token is signed under a policy, and is from whom, for whom and about whom the policy
expects. -/
structure IsAuthentic (p : Policy) (token : Text) (claims : ClaimSet) : Prop where
  signed : IsSigned p token claims
  issuer : checkIssuer claims p.issuer = .ok ()
  audience : checkAudience claims p.audience = .ok ()
  subjectForm : checkText claims "sub" .subjectNotText = .ok ()
  subject : checkSubject claims p.subject = .ok ()

/-- The times of a token are numbers. It need not say when it was issued. -/
structure HasTimes (claims : ClaimSet) : Prop where
  expiry : isNumber (claim claims "exp") = true
  beginning : isNumber (claim claims "nbf") = true
  issue : ∀ v, Json.field? claims "iat" = some v → isNumber v = true

/-- Now is before the expiry of a token, and not before its beginning or its issue. -/
structure InWindow (now : Int) (claims : ClaimSet) : Prop where
  expiry : ∃ q, (claim claims "exp").quantity? = some q ∧ .ofRat now < q
  beginning : ∃ q, (claim claims "nbf").quantity? = some q ∧ q ≤ .ofRat now
  issue : ∀ v, Json.field? claims "iat" = some v → ∃ q, v.quantity? = some q ∧ q ≤ .ofRat now

/-- No time of a token speaks against it now. -/
structure IsUnopposed (now : Int) (claims : ClaimSet) : Prop where
  expiry : atMost (claim claims "exp") now = false
  beginning : exceeds (claim claims "nbf") now = false
  issue : ∀ v, Json.field? claims "iat" = some v → exceeds v now = false

/-- One of the times of a token is not comparable with any other. -/
def HasUnordered (claims : ClaimSet) : Prop :=
  ∃ name ∈ (["exp", "nbf", "iat"] : List Text), Json.field? claims name = some (.float .nan)

/-- A token is refused whatever the time. -/
inductive IsLacking (p : Policy) (claims : ClaimSet) : Prop
  /-- A required number is zero, which passes for an empty value. -/
  | zero {name : Text} (required : name ∈ p.required)
    (zero : (claim claims name).quantity? = some (.ofRat 0))
  /-- A required claim that is no number is absent or empty. -/
  | empty {name : Text} (required : name ∈ p.required)
    (other : (claim claims name).quantity? = none) (vacant : (claim claims name).isVacant = true)
  /-- The token has an id, but not a text. -/
  | idForm (misfit : checkText claims "jti" .idNotText ≠ .ok ())

/-- A claim that is a number is there. -/
theorem field?_of_isNumber {claims : ClaimSet} {name : Text}
    (h : isNumber (claim claims name) = true) :
    Json.field? claims name = some (claim claims name) := by
  refine field?_of_ne_null fun hnull => ?_
  rw [hnull] at h
  cases h

/-! ### The stages -/

theorem checkNumber_eq_ok {claims : ClaimSet} {name : Text} {u : Unit} :
    checkNumber claims name = .ok u ↔
      ∀ v, Json.field? claims name = some v → isNumber v = true := by
  unfold checkNumber
  cases Json.field? claims name with
  | none => simp
  | some v => simp [require_eq_ok]

theorem checkTime_eq_ok {claims : ClaimSet} {name : Text} {excluded : Json → Bool} {f : Fault}
    {u : Unit} : checkTime claims name excluded f = .ok u ↔
      ∀ v, Json.field? claims name = some v → excluded v = false := by
  unfold checkTime
  cases Json.field? claims name with
  | none => simp
  | some v => simp [require_eq_ok]

/-- Times that are numbers pass where none speaks against the token. -/
theorem checkWindow_eq_ok {now : Int} {claims : ClaimSet} (times : HasTimes claims) :
    checkWindow now claims = .ok () ↔ IsUnopposed now claims := by
  have hexpiry := field?_of_isNumber times.expiry
  have hbeginning := field?_of_isNumber times.beginning
  unfold checkWindow
  simp only [bind_eq_ok, checkNumber_eq_ok, checkTime_eq_ok, hexpiry, hbeginning,
    Option.some.injEq, forall_eq']
  constructor
  · rintro ⟨_, -, _, -, _, -, _, he, _, hb, hi⟩
    exact ⟨he, hb, hi⟩
  · rintro ⟨he, hb, hi⟩
    exact ⟨(), times.expiry, (), times.beginning, (), times.issue, (), he, (), hb, hi⟩

/-- Claims that are filled are there. -/
theorem checkPresent_of_filled {claims : ClaimSet} {names : List Text}
    (h : ∀ name ∈ names, (claim claims name).isVacant = false) :
    checkPresent claims names = .ok () := by
  induction names with
  | nil => rfl
  | cons name names ih =>
    have hfilled := h name List.mem_cons_self
    have hne : claim claims name ≠ .null := by
      intro hnull
      rw [hnull] at hfilled
      cases hfilled
    unfold checkPresent
    rw [if_neg hne]
    exact ih fun other hother => h other (List.mem_cons_of_mem name hother)

/-- An empty value is the number zero, or no number. -/
theorem isVacant_iff_zero_or {v : Json} : v.isVacant = true ↔
    v.quantity? = some (.ofRat 0) ∨ (v.quantity? = none ∧ v.isVacant = true) := by
  cases hnumber : isNumber v with
  | true =>
    rw [isVacant_iff hnumber]
    exact ⟨Or.inl, fun h => h.elim id And.right⟩
  | false =>
    have hnone : v.quantity? = none := by
      cases v with
      | int _ | float _ => cases hnumber
      | _ => rfl
    simp [hnone]

theorem not_isLacking_iff {p : Policy} {claims : ClaimSet} :
    ¬ IsLacking p claims ↔
      checkFilled claims p.required = .ok () ∧ checkText claims "jti" .idNotText = .ok () := by
  rw [checkFilled_eq_ok]
  constructor
  · intro h
    refine ⟨fun name hname => ?_, Classical.byContradiction fun hid => h (.idForm hid)⟩
    rw [← Bool.not_eq_true, isVacant_iff_zero_or]
    rintro (hzero | ⟨hnone, hvacant⟩)
    · exact h (.zero hname hzero)
    · exact h (.empty hname hnone hvacant)
  · rintro ⟨hfilled, hid⟩ hlacking
    cases hlacking with
    | zero hname hzero =>
      exact absurd (hfilled _ hname) (by simp [isVacant_iff_zero_or.2 (Or.inl hzero)])
    | empty hname _ hvacant => exact absurd (hfilled _ hname) (by simp [hvacant])
    | idForm hmisfit => exact hmisfit hid

/-- Of a token that is authentic, the verification looks at what is required, and then at the
times. -/
theorem verify_isOk_iff {p : Policy} {token : Text} {claims : ClaimSet}
    (authentic : IsAuthentic p token claims) (times : HasTimes claims)
    (required : p.required ≠ []) (now : Int) :
    (∃ accepted, verify now p token = .ok accepted) ↔
      ¬ IsLacking p claims ∧ IsUnopposed now claims := by
  rw [not_isLacking_iff, ← checkWindow_eq_ok times]
  constructor
  · rintro ⟨accepted, h⟩
    obtain ⟨-, hsigned, hcheck⟩ := verify_eq_ok_iff_isSigned.1 h
    rw [hsigned.unique authentic.signed] at hcheck
    obtain ⟨-, -, -, -, hid, hfilled, hwindow, -⟩ := checkClaims_eq_ok.1 hcheck
    exact ⟨⟨hfilled, hid⟩, hwindow⟩
  · rintro ⟨⟨hfilled, hid⟩, hwindow⟩
    have hpresent := checkPresent_of_filled (checkFilled_eq_ok.1 hfilled)
    exact ⟨claims, verify_eq_ok_iff_isSigned.2 ⟨required, authentic.signed,
      checkClaims_eq_ok.2 ⟨hpresent, authentic.issuer, authentic.audience, authentic.subjectForm,
        hid, hfilled, hwindow, authentic.subject⟩⟩⟩

/-! ### The window -/

/-- A time is on one side of the clock where it is not on the other, unless it is comparable with
nothing. -/
theorem exists_quantity_iff {v : Json} {side : Quantity → Prop} {opposed : Bool}
    (number : isNumber v = true)
    (decides : ∀ {q}, v.quantity? = some q → (opposed = false ↔ side q)) :
    (∃ q, v.quantity? = some q ∧ side q) ↔ opposed = false ∧ v ≠ .float .nan := by
  cases hq : v.quantity? with
  | none => simp [(quantity?_eq_none number).1 hq]
  | some q =>
    have hv : v ≠ .float .nan := fun hv => by
      rw [(quantity?_eq_none number).2 hv] at hq
      cases hq
    simp [decides hq, hv]

/-- A token is in its window where no time speaks against it and each can be compared. -/
theorem inWindow_iff {now : Int} {claims : ClaimSet} (times : HasTimes claims) :
    InWindow now claims ↔ IsUnopposed now claims ∧ ¬ HasUnordered claims := by
  have hexpiry := exists_quantity_iff times.expiry (atMost_eq_false (n := now))
  have hbeginning := exists_quantity_iff times.beginning (exceeds_eq_false (n := now))
  have hissue : ∀ v, Json.field? claims "iat" = some v →
      ((∃ q, v.quantity? = some q ∧ q ≤ .ofRat now) ↔
        exceeds v now = false ∧ v ≠ .float .nan) :=
    fun v hv => exists_quantity_iff (times.issue v hv) (exceeds_eq_false (n := now))
  have hunordered : ¬ HasUnordered claims ↔ claim claims "exp" ≠ .float .nan ∧
      claim claims "nbf" ≠ .float .nan ∧
        ∀ v, Json.field? claims "iat" = some v → v ≠ .float .nan := by
    unfold HasUnordered
    simp only [List.mem_cons, List.not_mem_nil, or_false, exists_eq_or_imp, exists_eq_left,
      field?_of_isNumber times.expiry, field?_of_isNumber times.beginning, Option.some.injEq,
      not_or]
    refine and_congr_right fun _ => and_congr_right fun _ => ⟨fun h v hv hnan => ?_, ?_⟩
    · exact h (hnan ▸ hv)
    · exact fun h hnan => h _ hnan rfl
  rw [hunordered]
  constructor
  · rintro ⟨he, hb, hi⟩
    exact ⟨⟨(hexpiry.1 he).1, (hbeginning.1 hb).1, fun v hv => ((hissue v hv).1 (hi v hv)).1⟩,
      (hexpiry.1 he).2, (hbeginning.1 hb).2, fun v hv => ((hissue v hv).1 (hi v hv)).2⟩
  · rintro ⟨⟨he, hb, hi⟩, he', hb', hi'⟩
    exact ⟨hexpiry.2 ⟨he, he'⟩, hbeginning.2 ⟨hb, hb'⟩,
      fun v hv => (hissue v hv).2 ⟨hi v hv, hi' v hv⟩⟩

/-- **A token is judged by its window, but for zeros and what is not comparable.** A token that is
authentic and whose times are numbers is accepted just when now is in its window, unless it is in
its window and lacks something that is required, for which a zero is enough, or it lacks nothing, no
time speaks against it, and one of them is `NaN`. -/
theorem window_judged_iff {p : Policy} {token : Text} {claims : ClaimSet}
    (authentic : IsAuthentic p token claims) (times : HasTimes claims)
    (required : p.required ≠ []) (now : Int) :
    ((∃ accepted, verify now p token = .ok accepted) ↔ InWindow now claims) ↔
      ¬ (InWindow now claims ∧ IsLacking p claims) ∧
        ¬ (IsUnopposed now claims ∧ HasUnordered claims ∧ ¬ IsLacking p claims) := by
  rw [verify_isOk_iff authentic times required, inWindow_iff times]
  by_cases hopposed : IsUnopposed now claims
  · by_cases hunordered : HasUnordered claims <;> by_cases hlacking : IsLacking p claims <;>
      simp [hopposed, hunordered, hlacking]
  · simp [hopposed]

end SignedToken

namespace Issuer

namespace OneClient

open SignedToken

/-- A policy for tokens that say when they are good, from whomever and for whomever they are. -/
def timedPolicy : Policy := ⟨"HS256", client.keyMaterial, ["exp", "nbf"], none, none, none⟩

/-- Two times as claims. -/
def timed (expiry beginning : Json) : ClaimSet := [("exp", expiry), ("nbf", beginning)]

/-- What the client signs of two times is authentic. -/
theorem isAuthentic_timed {payload : Bytes} {expiry beginning : Json}
    (h : Json.ofBytes payload = .ok (.obj (timed expiry beginning))) :
    IsAuthentic timedPolicy (signed payload) (timed expiry beginning) :=
  ⟨isSigned_signed rfl rfl h, rfl, rfl, rfl, rfl⟩

theorem hasTimes_timed {expiry beginning : Json} (hexpiry : isNumber expiry = true)
    (hbeginning : isNumber beginning = true) : HasTimes (timed expiry beginning) :=
  ⟨hexpiry, hbeginning, fun _ h => nomatch h⟩

/-- A payload whose expiry is infinite and whose beginning is before all time. -/
def openPayload : Bytes := Bytes.ofAscii "\x7b\"exp\":Infinity,\"nbf\":-1\x7d"

theorem ofBytes_openPayload :
    Json.ofBytes openPayload = .ok (.obj (timed (.float (.infinity false)) (.int (-1)))) :=
  Json.ofBytes_ascii (by decide +kernel) (by decide +kernel) (by decide +kernel)

/-- A token without an end is judged by its window, in which it always is. -/
theorem endless_token_is_judged :
    IsAuthentic timedPolicy (signed openPayload) (timed (.float (.infinity false)) (.int (-1))) ∧
      HasTimes (timed (.float (.infinity false)) (.int (-1))) ∧ timedPolicy.required ≠ [] ∧
      ((∃ accepted, verify 5 timedPolicy (signed openPayload) = .ok accepted) ↔
        InWindow 5 (timed (.float (.infinity false)) (.int (-1)))) := by
  have hauthentic := isAuthentic_timed ofBytes_openPayload
  have htimes : HasTimes (timed (.float (.infinity false)) (.int (-1))) :=
    hasTimes_timed rfl rfl
  have hrequired : timedPolicy.required ≠ [] := by decide
  refine ⟨hauthentic, htimes, hrequired,
    (window_judged_iff hauthentic htimes hrequired 5).2 ⟨?_, ?_⟩⟩
  · rintro ⟨-, hlacking⟩
    exact not_isLacking_iff.2 ⟨rfl, rfl⟩ hlacking
  · rintro ⟨-, ⟨name, -, hnan⟩, -⟩
    have hmem := Entries.mem_of_get? hnan
    simp [timed] at hmem

/-- A payload whose expiry is `NaN`. -/
def unorderedPayload : Bytes := Bytes.ofAscii "\x7b\"exp\":NaN,\"nbf\":1\x7d"

theorem ofBytes_unorderedPayload :
    Json.ofBytes unorderedPayload = .ok (.obj (timed (.float .nan) (.int 1))) :=
  Json.ofBytes_ascii (by decide +kernel) (by decide +kernel) (by decide +kernel)

/-- A payload that has been good from the beginning of time. -/
def zeroPayload : Bytes := Bytes.ofAscii "\x7b\"exp\":9,\"nbf\":0\x7d"

theorem ofBytes_zeroPayload : Json.ofBytes zeroPayload = .ok (.obj (timed (.int 9) (.int 0))) :=
  Json.ofBytes_ascii (by decide +kernel) (by decide +kernel) (by decide +kernel)

/-- **An expiry that is `NaN` is accepted, and a beginning that is zero is refused**: the first
token is in no window, the second in its own. -/
theorem nan_and_zero_are_misjudged :
    (IsAuthentic timedPolicy (signed unorderedPayload) (timed (.float .nan) (.int 1)) ∧
      HasTimes (timed (.float .nan) (.int 1)) ∧
      (∃ accepted, verify 5 timedPolicy (signed unorderedPayload) = .ok accepted) ∧
      ¬ InWindow 5 (timed (.float .nan) (.int 1))) ∧
    (IsAuthentic timedPolicy (signed zeroPayload) (timed (.int 9) (.int 0)) ∧
      HasTimes (timed (.int 9) (.int 0)) ∧
      (¬ ∃ accepted, verify 5 timedPolicy (signed zeroPayload) = .ok accepted) ∧
      InWindow 5 (timed (.int 9) (.int 0))) := by
  have hrequired : timedPolicy.required ≠ [] := by decide
  constructor
  · have hauthentic := isAuthentic_timed ofBytes_unorderedPayload
    have htimes : HasTimes (timed (.float .nan) (.int 1)) := hasTimes_timed rfl rfl
    refine ⟨hauthentic, htimes, (verify_isOk_iff hauthentic htimes hrequired 5).2
      ⟨not_isLacking_iff.2 ⟨rfl, rfl⟩, rfl, rfl, fun _ h => nomatch h⟩, ?_⟩
    rintro ⟨⟨q, hq, -⟩, -, -⟩
    cases hq
  · have hauthentic := isAuthentic_timed ofBytes_zeroPayload
    have htimes : HasTimes (timed (.int 9) (.int 0)) := hasTimes_timed rfl rfl
    have hrequires : ("nbf" : Text) ∈ timedPolicy.required := by decide
    have hlacking : IsLacking timedPolicy (timed (.int 9) (.int 0)) := .zero hrequires rfl
    refine ⟨hauthentic, htimes,
      fun h => ((verify_isOk_iff hauthentic htimes hrequired 5).1 h).1 hlacking,
      ⟨_, rfl, ?_⟩, ⟨_, rfl, ?_⟩, fun _ h => nomatch h⟩
    · exact Quantity.ofRat_lt.2 (by norm_num)
    · exact Quantity.ofRat_le.2 (by norm_num)

end OneClient

end Issuer

end Issuance
