import Issuance.Proofs.Settings
import Issuance.Proofs.Service.Authorization

/-!
# Issuance.Proofs.Service.Scope

**Which required scopes can be met.** A scope is a list of tokens with a space between neighbours, and
the required scope is looked for among the tokens. It is found there exactly if it occurs in the scope
as a run of tokens and is a single one (`scopeContains_joined`, `mem_iff_occursIn`). Settings are
loaded with any required scope that is not blank, so with one of several tokens too, and this no
request can meet, not even one with just that scope (`required_scope_met_iff`).
-/

namespace Issuance

/-! ### Tokens of a scope -/

namespace Scope

/-- Characters without a blank among them, one at least. -/
def IsToken (t : Text) : Prop := t ≠ [] ∧ ∀ c ∈ t, c.isBlank = false

instance (t : Text) : Decidable (IsToken t) := inferInstanceAs (Decidable (_ ∧ _))

/-- A text is a run of tokens, a space between neighbours. -/
def OccursIn (t : Text) (tokens : List Text) : Prop :=
  ∃ before run after, tokens = before ++ run ++ after ∧ t = Text.joined " " run

variable {tokens : List Text} {t : Text}

/-- Tokens are found again among the words of a scope. -/
theorem words_joined (h : ∀ token ∈ tokens, IsToken token) :
    Text.words (Text.joined " " tokens) = tokens := by
  by_cases hne : tokens = []
  · subst hne
    rfl
  have hpieces : Text.pieces CodePoint.isBlank (Text.joined " " tokens) = tokens :=
    Text.pieces_joined (by decide) hne fun token htoken => (h token htoken).2
  unfold Text.words
  rw [hpieces]
  exact List.filter_eq_self.2 fun token htoken => by simpa using (h token htoken).1

/-- Whatever a scope is, its words are tokens. -/
theorem isToken_of_mem_words {scope : Text} (h : t ∈ Text.words scope) : IsToken t := by
  obtain ⟨hpiece, hfilled⟩ := List.mem_filter.1 h
  exact ⟨by simpa using hfilled, Text.not_of_mem_pieces hpiece⟩

theorem words_of_isToken (h : IsToken t) : Text.words t = [t] :=
  words_joined (List.forall_mem_singleton.2 h)

/-- What is found in a scope of tokens is one of them. -/
theorem scopeContains_joined (h : ∀ token ∈ tokens, IsToken token) :
    scopeContains (some (Text.joined " " tokens)) t = true ↔ t ∈ tokens := by
  have hmem : scopeContains (some (Text.joined " " tokens)) t = true ↔
      t ∈ Text.words (Text.joined " " tokens) := List.contains_iff_mem
  rw [hmem, words_joined h]

/-- What has a blank in it is found in no scope. -/
theorem scopeContains_of_blank {scope : Option Text} (h : ∃ c ∈ t, c.isBlank = true) :
    scopeContains scope t = false := by
  refine Bool.eq_false_iff.2 fun hfound => ?_
  obtain ⟨c, hc, hblank⟩ := h
  have hword : t ∈ Text.words (scope.getD []) := List.contains_iff_mem.1 hfound
  rw [(isToken_of_mem_words hword).2 c hc] at hblank
  cases hblank

/-- A scope is found in itself unless it has a blank in it. -/
theorem scopeContains_self_iff (hfilled : t ≠ []) :
    scopeContains (some t) t = false ↔ ∃ c ∈ t, c.isBlank = true := by
  refine ⟨fun hmissed => ?_, scopeContains_of_blank⟩
  by_contra hnone
  have htoken : IsToken t :=
    ⟨hfilled, fun c hc => Bool.eq_false_iff.2 fun hblank => hnone ⟨c, hc, hblank⟩⟩
  have hfound : scopeContains (some t) t = true :=
    (scopeContains_joined (List.forall_mem_singleton.2 htoken)).2 (List.mem_singleton_self t)
  rw [hmissed] at hfound
  cases hfound

/-- One of the tokens is a run of them that has no blank in it. -/
theorem mem_iff_occursIn (h : ∀ token ∈ tokens, IsToken token) (hfilled : t ≠ []) :
    t ∈ tokens ↔ OccursIn t tokens ∧ ∀ c ∈ t, c.isBlank = false := by
  constructor
  · intro ht
    obtain ⟨before, after, rfl⟩ := List.append_of_mem ht
    exact ⟨⟨before, [t], after, by simp, rfl⟩, (h t ht).2⟩
  · rintro ⟨⟨before, run, after, rfl, heq⟩, hblank⟩
    have hrun : ∀ token ∈ run, IsToken token := fun token htoken =>
      h token (List.mem_append_left _ (List.mem_append_right _ htoken))
    -- the words of the run are its tokens, and those of the text are the text
    have hwords : [t] = run := by
      rw [← words_of_isToken ⟨hfilled, hblank⟩, heq, words_joined hrun]
    simp [← hwords]

end Scope

/-! ### The check of a request -/

namespace AuthorizationRequest

/-- A request is refused for its scope if that is the first thing amiss: the response type is checked
before it, and all else after it. -/
theorem decide_eq_scope_iff {r : AuthorizationRequest} {requiredScope : Text} {registry : Registry}
    {s : Session} (htype : r.responseType = some "code") :
    r.decide requiredScope registry s = .error (.scope requiredScope) ↔
      scopeContains r.scope requiredScope = false := by
  unfold decide
  rw [if_neg (Decidable.not_not.2 htype)]
  cases hscope : scopeContains r.scope requiredScope with
  | false => exact iff_of_true rfl rfl
  | true =>
    refine iff_of_false (fun h => ?_) (by decide)
    -- whatever is checked after the scope is refused for something else
    rw [Bool.not_true, if_neg Bool.false_ne_true] at h
    dsimp only at h
    repeat' split at h
    all_goals cases h

/-- A request with just the required scope is refused for its scope unless that is a single token. -/
theorem decide_of_exact {r : AuthorizationRequest} {requiredScope : Text} {registry : Registry}
    {s : Session} (htype : r.responseType = some "code") (hscope : r.scope = some requiredScope)
    (hfilled : requiredScope ≠ []) :
    r.decide requiredScope registry s = .error (.scope requiredScope) ↔
      ∃ c ∈ requiredScope, c.isBlank = true := by
  rw [decide_eq_scope_iff htype, hscope]
  exact Scope.scopeContains_self_iff hfilled

end AuthorizationRequest

namespace Scope

/-- **A required scope can be met exactly if it is a single token.** Take any required scope that
settings are loaded with. In a scope of tokens with a space between neighbours it is found exactly if
it occurs there as a run of tokens and has no blank in it. A request with just that scope is refused
for its scope exactly if there is a blank in it, and if there is, it is found in no scope at all. -/
theorem required_scope_met_iff {sources : Settings.Sources} {settings : Settings}
    (loaded : Settings.load sources = .ok settings) :
    (∀ tokens, (∀ token ∈ tokens, IsToken token) →
      (scopeContains (some (Text.joined " " tokens)) settings.requiredScope = true ↔
        OccursIn settings.requiredScope tokens ∧
          ∀ c ∈ settings.requiredScope, c.isBlank = false)) ∧
    (∀ (r : AuthorizationRequest) (registry : Registry) (s : Session),
      r.responseType = some "code" → r.scope = some settings.requiredScope →
      (r.decide settings.requiredScope registry s = .error (.scope settings.requiredScope) ↔
        ∃ c ∈ settings.requiredScope, c.isBlank = true)) ∧
    ∀ scope, (∃ c ∈ settings.requiredScope, c.isBlank = true) →
      scopeContains scope settings.requiredScope = false := by
  obtain ⟨hfilled, -⟩ := Settings.requiredScope_of_load loaded
  refine ⟨fun tokens htokens => ?_, fun r registry s htype hscope => ?_,
    fun scope => scopeContains_of_blank⟩
  · rw [scopeContains_joined htokens]
    exact mem_iff_occursIn htokens hfilled
  · exact AuthorizationRequest.decide_of_exact htype hscope hfilled

/-- The usual settings are loaded where the sources say nothing, and their required scope is met by
a scope that has it among its tokens. -/
theorem usual_scope_is_met :
    Settings.load ⟨[], []⟩ = .ok Settings.standard ∧
      (∀ token ∈ (["openid", "profile"] : List Text), IsToken token) ∧
      scopeContains (some (Text.joined " " ["openid", "profile"]))
        Settings.standard.requiredScope = true ∧
      ∀ (registry : Registry) (s : Session),
        AuthorizationRequest.decide ⟨none, none, some "code", some "openid", none⟩ "openid" registry
          s ≠ .error (.scope "openid") := by
  have hloaded : Settings.load ⟨[], []⟩ = .ok Settings.standard := rfl
  have htokens : ∀ token ∈ (["openid", "profile"] : List Text), IsToken token := by decide
  obtain ⟨hfound, hexact, -⟩ := required_scope_met_iff hloaded
  refine ⟨hloaded, htokens, ?_, fun registry s h => ?_⟩
  · exact (hfound _ htokens).2 ⟨⟨[], ["openid"], ["profile"], rfl, rfl⟩, by decide⟩
  · obtain ⟨c, hc, hblank⟩ := (hexact _ registry s rfl rfl).1 h
    have hnone : ∀ c ∈ ("openid" : Text), c.isBlank = false := by decide
    rw [hnone c hc] at hblank
    cases hblank

open Issuer in
/-- A required scope of two tokens is loaded, and is not found in the scope that consists of these
two. The client that asks for just this scope is refused, and would be granted the code if the first
of them were required. -/
theorem two_tokens_are_never_met :
    ∃ settings, Settings.load ⟨[("REQUIRED_SCOPE", "openid profile")], []⟩ = .ok settings ∧
      (∀ token ∈ (["openid", "profile"] : List Text), IsToken token) ∧
      OccursIn settings.requiredScope ["openid", "profile"] ∧
      scopeContains (some (Text.joined " " ["openid", "profile"])) settings.requiredScope = false ∧
      AuthorizationRequest.decide ⟨some "r", some "c", some "code", some settings.requiredScope,
        some "t"⟩ settings.requiredScope OneClient.registry OneClient.codedSession =
        .error (.scope "openid profile") ∧
      AuthorizationRequest.decide ⟨some "r", some "c", some "code", some settings.requiredScope,
        some "t"⟩ "openid" OneClient.registry OneClient.codedSession = .ok OneClient.grant := by
  refine ⟨{ Settings.standard with requiredScope := "openid profile" }, by rfl, ?_, ?_, by decide,
    by rfl, by rfl⟩
  · decide
  · exact ⟨[], ["openid", "profile"], [], rfl, rfl⟩

end Scope

end Issuance
