import Issuance.Settings
import Issuance.Proofs.Text.Pieces

/-!
# Issuance.Proofs.Settings

**What settings are that can be loaded.** Problems are gathered over all settings, so settings are
loaded only where each of them is right by itself: `Settings.ReadFrom` says of every setting what it
was read as, and `readFrom_of_load` gets it from a load that went well. What every way to read a
setting ensures, and its default satisfies, then holds of the setting (`Settings.holds_of_setting`).
-/

namespace Issuance

namespace Settings

/-! ### Settings one by one -/

namespace Checked

variable {α β : Type}

/-- What is combined of two settings is right where both are. -/
theorem seq_eq_right {f : Checked (α → β)} {x : Checked α} {b : β} :
    f <*> x = .right b ↔ ∃ g a, f = .right g ∧ x = .right a ∧ g a = b := by
  constructor
  · intro h
    cases f with
    | wrong ps => cases x <;> cases h
    | right g =>
      cases x with
      | wrong qs => cases h
      | right a =>
        cases h
        exact ⟨g, a, rfl, rfl, rfl⟩
  · rintro ⟨g, a, rfl, rfl, rfl⟩
    rfl

theorem map_eq_right {f : α → β} {x : Checked α} {b : β} :
    f <$> x = .right b ↔ ∃ a, x = .right a ∧ f a = b := by
  constructor
  · intro h
    obtain ⟨_, a, hf, hx, rfl⟩ := seq_eq_right.1 (show Checked.right f <*> x = .right b from h)
    cases hf
    exact ⟨a, hx, rfl⟩
  · rintro ⟨a, rfl, rfl⟩
    rfl

end Checked

/-- A setting is its default, or what was read. -/
theorem setting_eq_right {α : Type} {s : Sources} {name : Text} {default x : α}
    {read : Json → Except Cause α} (h : setting s name default read = .right x) :
    x = default ∨ ∃ v, read v = .ok x := by
  unfold setting at h
  split at h
  · cases h
    exact Or.inl rfl
  · split at h
    · rename_i v _ _ y hread
      cases h
      exact Or.inr ⟨v, hread⟩
    · cases h

/-- What holds of the default and of all that is read holds of the setting. -/
theorem holds_of_setting {α : Type} {P : α → Prop} {s : Sources} {name : Text} {default x : α}
    {read : Json → Except Cause α} (h : setting s name default read = .right x) (hdefault : P default)
    (hread : ∀ v y, read v = .ok y → P y) : P x := by
  rcases setting_eq_right h with rfl | ⟨v, hv⟩
  · exact hdefault
  · exact hread v x hv

/-- A text that must not be blank is read without the blanks around it, and something is left. -/
theorem nonBlank_eq_ok {v : Json} {t : Text} (h : nonBlank v = .ok t) :
    t ≠ [] ∧ ∃ given, v = .str given ∧ t = given.trim := by
  cases v with
  | str given =>
    change (if given.trim.isEmpty then _ else _) = _ at h
    split at h
    · cases h
    · rename_i hfilled
      cases h
      exact ⟨by simpa using hfilled, given, rfl, rfl⟩
  | _ => cases h

/-! ### All settings -/

/-- Each setting is its default, or what the sources have for it. -/
structure ReadFrom (s : Sources) (x : Settings) : Prop where
  componentId : setting s "COMPONENT_ID" standard.componentId component = .right x.componentId
  sessionTtl : setting s "SESSION_TTL_SECONDS" standard.sessionTtl seconds = .right x.sessionTtl
  authorizationCodeTtl : setting s "AUTHORIZATION_CODE_TTL_SECONDS" standard.authorizationCodeTtl
    seconds = .right x.authorizationCodeTtl
  accessTokenTtl : setting s "ACCESS_TOKEN_TTL_SECONDS" standard.accessTokenTtl seconds =
    .right x.accessTokenTtl
  keyRotation : setting s "KEY_ROTATION_ENABLED" standard.keyRotation (.ok ∘ switch) =
    .right x.keyRotation
  legacyFallback : setting s "LEGACY_KEY_FALLBACK_ENABLED" standard.legacyFallback (.ok ∘ switch) =
    .right x.legacyFallback
  decryptionKeyId : setting s "DECRYPTION_KEY_ID" standard.decryptionKeyId nonBlank =
    .right x.decryptionKeyId
  keyDirectory : setting s "KEY_DIR" standard.keyDirectory path = .right x.keyDirectory
  clientsPath : setting s "CLIENTS_CONFIG_PATH" standard.clientsPath path = .right x.clientsPath
  auditDirectory : setting s "AUDIT_DIR" standard.auditDirectory path = .right x.auditDirectory
  eventPrefix : setting s "AUDIT_EVENT_NAME_PREFIX" standard.eventPrefix nonBlank =
    .right x.eventPrefix
  requiredScope : setting s "REQUIRED_SCOPE" standard.requiredScope nonBlank =
    .right x.requiredScope
  sensitiveFields : fieldNames s "SHARED_CLAIMS_SENSITIVE_FIELDS" standard.sensitiveFields =
    .right x.sensitiveFields
  logLevel : setting s "LOG_LEVEL" standard.logLevel level = .right x.logLevel

/-- All settings are right where each is. -/
theorem each_eq_right {s : Sources} {x : Settings} (h : each s = .right x) : ReadFrom s x := by
  simp only [each, Checked.seq_eq_right, Checked.map_eq_right] at h
  -- from the last setting back to the first
  obtain ⟨_, _, h, logLevel, rfl⟩ := h
  obtain ⟨_, _, h, sensitiveFields, rfl⟩ := h
  obtain ⟨_, _, h, requiredScope, rfl⟩ := h
  obtain ⟨_, _, h, eventPrefix, rfl⟩ := h
  obtain ⟨_, _, h, auditDirectory, rfl⟩ := h
  obtain ⟨_, _, h, clientsPath, rfl⟩ := h
  obtain ⟨_, _, h, keyDirectory, rfl⟩ := h
  obtain ⟨_, _, h, decryptionKeyId, rfl⟩ := h
  obtain ⟨_, _, h, legacyFallback, rfl⟩ := h
  obtain ⟨_, _, h, keyRotation, rfl⟩ := h
  obtain ⟨_, _, h, accessTokenTtl, rfl⟩ := h
  obtain ⟨_, _, h, authorizationCodeTtl, rfl⟩ := h
  obtain ⟨_, _, h, sessionTtl, rfl⟩ := h
  obtain ⟨_, componentId, rfl⟩ := h
  exact ⟨componentId, sessionTtl, authorizationCodeTtl, accessTokenTtl, keyRotation, legacyFallback,
    decryptionKeyId, keyDirectory, clientsPath, auditDirectory, eventPrefix, requiredScope,
    sensitiveFields, logLevel⟩

/-- **Settings that are loaded are right each by itself.** -/
theorem readFrom_of_load {s : Sources} {x : Settings} (h : load s = .ok x) : ReadFrom s x := by
  unfold load at h
  split at h
  · cases h
  · unfold ofChecked at h
    split at h
    · cases h
    · rename_i y hy
      split at h
      · cases h
      · cases h
        exact each_eq_right hy

/-- The required scope that is loaded is not empty, and has no blank at an end. -/
theorem requiredScope_of_load {s : Sources} {x : Settings} (h : load s = .ok x) :
    x.requiredScope ≠ [] ∧ x.requiredScope.trim = x.requiredScope := by
  refine holds_of_setting (P := fun t : Text => t ≠ [] ∧ t.trim = t) (readFrom_of_load h).requiredScope
    (by decide) fun v t hv => ?_
  obtain ⟨hfilled, given, -, rfl⟩ := nonBlank_eq_ok hv
  exact ⟨hfilled, Text.trim_trim given⟩

end Settings

end Issuance
