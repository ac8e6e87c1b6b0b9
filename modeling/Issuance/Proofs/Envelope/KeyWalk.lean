import Issuance.Proofs.Envelope.Refusal
import Issuance.Proofs.Envelope.RoundTrip
import Issuance.Proofs.Json.RoundTrip
import Issuance.Proofs.Text.Utf8
import Issuance.Service.Counters

/-!
# Issuance.Proofs.Envelope.KeyWalk

**Which keys are asked for.** A decrypter has a chain of key ids: one without rotation, the
candidates and perhaps the legacy key with it. `Asks` says how a chain is gone along: up to the
first id that unwraps, or to its end. `asks_walk` shows by induction on the candidates that they are
walked in this way, and `walk_congr` that nothing else is ever asked of the key service: a service
that answers the same to the ids asked for cannot be told from it.

Two results follow. `keys_asked_along_chain` says of every envelope what is asked for, which content
key is used, and when the exhaustion of the keys is counted. `sealed_opens_along_chain` says that
what was sealed is opened, wherever in the chain the key stands.
-/

namespace Issuance

namespace Envelope

/-! ### Going along a chain -/

/-- The key service does not unwrap with a key. -/
def Refuses (service : KeyService) (wrapped : Bytes) (keyId : Text) : Prop :=
  ∃ f, service keyId wrapped = .error f

theorem not_refuses {service : KeyService} {wrapped key : Bytes} {keyId : Text}
    (h : service keyId wrapped = .ok key) : ¬ Refuses service wrapped keyId := by
  rintro ⟨f, hf⟩
  rw [h] at hf
  cases hf

/-- How a chain of key ids is gone along: the ids that are asked for, and the content key if there
is one. -/
inductive Asks (service : KeyService) (wrapped : Bytes) (keyIds : List Text) :
    List Text → Option Bytes → Prop
  /-- An id unwraps, and all before it refuse: those after it are not asked for. -/
  | found (earlier later : List Text) (keyId : Text) (key : Bytes)
      (chain : keyIds = earlier ++ keyId :: later)
      (refused : ∀ k ∈ earlier, Refuses service wrapped k)
      (unwrapped : service keyId wrapped = .ok key) :
      Asks service wrapped keyIds (earlier ++ [keyId]) (some key)
  /-- No id unwraps, and all are asked for. -/
  | exhausted (refused : ∀ k ∈ keyIds, Refuses service wrapped k) :
      Asks service wrapped keyIds keyIds none

namespace Asks

variable {service : KeyService} {wrapped : Bytes} {keyIds asked : List Text} {key? : Option Bytes}

/-- An id that refuses is asked for before the others. -/
theorem cons {keyId : Text} (refused : Refuses service wrapped keyId)
    (h : Asks service wrapped keyIds asked key?) :
    Asks service wrapped (keyId :: keyIds) (keyId :: asked) key? := by
  cases h with
  | found earlier later found key chain earlierRefused unwrapped =>
    exact .found (keyId :: earlier) later found key (congrArg (keyId :: ·) chain)
      (List.forall_mem_cons.2 ⟨refused, earlierRefused⟩) unwrapped
  | exhausted allRefused => exact .exhausted (List.forall_mem_cons.2 ⟨refused, allRefused⟩)

/-- There is no content key just where the whole chain refuses. -/
theorem eq_none_iff (h : Asks service wrapped keyIds asked key?) :
    key? = none ↔ ∀ k ∈ keyIds, Refuses service wrapped k := by
  cases h with
  | found earlier later keyId key chain _ unwrapped =>
    refine iff_of_false (Option.some_ne_none key) fun refused => not_refuses unwrapped ?_
    exact refused keyId (chain ▸ List.mem_append_right _ List.mem_cons_self)
  | exhausted refused => exact iff_of_true rfl refused

/-- The first id unwraps, or it refuses and the rest of the chain is gone along. -/
theorem of_cons {keyId : Text} (h : Asks service wrapped (keyId :: keyIds) asked key?) :
    (∃ key, service keyId wrapped = .ok key ∧ asked = [keyId] ∧ key? = some key) ∨
      (Refuses service wrapped keyId ∧
        ∃ rest, asked = keyId :: rest ∧ Asks service wrapped keyIds rest key?) := by
  cases h with
  | found earlier later found key chain refused unwrapped =>
    cases earlier with
    | nil =>
      obtain ⟨rfl, -⟩ := List.cons.inj chain
      exact .inl ⟨key, unwrapped, rfl, rfl⟩
    | cons first earlier =>
      obtain ⟨rfl, hchain⟩ := List.cons.inj chain
      obtain ⟨hfirst, hearlier⟩ := List.forall_mem_cons.1 refused
      exact .inr ⟨hfirst, _, rfl, .found earlier later found key hchain hearlier unwrapped⟩
  | exhausted refused =>
    obtain ⟨hfirst, hrest⟩ := List.forall_mem_cons.1 refused
    exact .inr ⟨hfirst, _, rfl, .exhausted hrest⟩

/-- Nothing is asked for along an empty chain. -/
theorem of_nil (h : Asks service wrapped [] asked key?) : asked = [] ∧ key? = none := by
  cases h with
  | found earlier _ _ _ chain => exact absurd chain.symm (by simp)
  | exhausted _ => exact ⟨rfl, rfl⟩

/-- There is one way along a chain. -/
theorem unique {asked' : List Text} {key?' : Option Bytes}
    (h : Asks service wrapped keyIds asked key?) (h' : Asks service wrapped keyIds asked' key?') :
    asked = asked' ∧ key? = key?' := by
  induction keyIds generalizing asked asked' with
  | nil =>
    obtain ⟨rfl, rfl⟩ := h.of_nil
    obtain ⟨rfl, rfl⟩ := h'.of_nil
    exact ⟨rfl, rfl⟩
  | cons keyId keyIds ih =>
    rcases h.of_cons with ⟨key, hkey, rfl, rfl⟩ | ⟨hrefused, rest, rfl, hrest⟩ <;>
      rcases h'.of_cons with ⟨key', hkey', rfl, rfl⟩ | ⟨hrefused', rest', rfl, hrest'⟩
    · obtain rfl := Except.ok.inj (hkey.symm.trans hkey')
      exact ⟨rfl, rfl⟩
    · exact absurd hrefused' (not_refuses hkey)
    · exact absurd hrefused (not_refuses hkey')
    · obtain ⟨rfl, rfl⟩ := ih hrest hrest'
      exact ⟨rfl, rfl⟩

end Asks

/-- Candidates are walked along the chain of their ids. -/
theorem asks_walk (service : KeyService) (wrapped : Bytes) (candidates : List Candidate) :
    Asks service wrapped (candidates.map (·.keyId)) (walk service wrapped candidates).asked
      ((walk service wrapped candidates).success.map Prod.fst) := by
  induction candidates with
  | nil => exact .exhausted (List.forall_mem_nil _)
  | cons c cs ih =>
    unfold walk
    cases hc : service c.keyId wrapped with
    | ok key => exact .found [] (cs.map (·.keyId)) c.keyId key rfl (List.forall_mem_nil _) hc
    | error f => exact ih.cons ⟨f, hc⟩

/-- A service that answers the same to the ids asked for is walked in the same way. -/
theorem walk_congr {service service' : KeyService} {wrapped : Bytes} {candidates : List Candidate}
    (h : ∀ k ∈ (walk service wrapped candidates).asked,
      service' k wrapped = service k wrapped) :
    walk service' wrapped candidates = walk service wrapped candidates := by
  induction candidates with
  | nil => rfl
  | cons c cs ih =>
    unfold walk at h ⊢
    cases hc : service c.keyId wrapped with
    | ok key =>
      rw [hc] at h
      rw [(List.forall_mem_singleton.1 h).trans hc]
    | error f =>
      rw [hc] at h
      obtain ⟨hfirst, hrest⟩ := List.forall_mem_cons.1 h
      rw [hfirst.trans hc]
      dsimp only
      rw [ih hrest]

/-! ### The chain of a decrypter -/

namespace Decrypter

/-- The ids that a decrypter may ask for, in order: with rotation those of the candidates, and of
the legacy key if it is allowed, and without it only one. -/
def keyIds (d : Decrypter) : List Text :=
  if d.keyRotation then
    d.candidates.map (·.keyId) ++ (if d.legacyFallback then [d.keyId] else [])
  else [d.keyId]

theorem map_keyId_chain {d : Decrypter} (h : d.keyRotation = true) :
    d.chain.map (·.keyId) = d.keyIds := by
  unfold chain keyIds
  rw [if_pos h]
  split
  · exact List.map_append
  · exact (List.append_nil _).symm

variable (d : Decrypter) (service : KeyService) (wrapped : Bytes)

theorem asks_unwrapContentKey :
    Asks service wrapped d.keyIds (d.unwrapContentKey service wrapped).asked
      (d.unwrapContentKey service wrapped).result.toOption := by
  unfold unwrapContentKey
  split
  next hrotation =>
    have hwalk := asks_walk service wrapped d.chain
    rw [map_keyId_chain hrotation] at hwalk
    dsimp only
    split
    next key name hsuccess => rwa [hsuccess] at hwalk
    next hsuccess => rwa [hsuccess] at hwalk
  next hrotation =>
    have hkeyIds : d.keyIds = [d.keyId] := if_neg hrotation
    rw [hkeyIds]
    cases hkey : service d.keyId wrapped with
    | ok key => exact .found [] [] d.keyId key rfl (List.forall_mem_nil _) hkey
    | error f => exact .exhausted (List.forall_mem_singleton.2 ⟨f, hkey⟩)

/-- The keys are exhausted where a rotation goes along its whole chain in vain. -/
theorem exhausted_unwrapContentKey :
    (d.unwrapContentKey service wrapped).exhausted = true ↔
      d.keyRotation = true ∧ (d.unwrapContentKey service wrapped).result.toOption = none := by
  unfold unwrapContentKey
  cases d.keyRotation with
  | true =>
    dsimp only [if_true]
    cases (walk service wrapped d.chain).success with
    | some found => exact iff_of_false Bool.false_ne_true (fun h => Option.some_ne_none _ h.2)
    | none => exact iff_of_true rfl ⟨rfl, rfl⟩
  | false =>
    refine iff_of_false ?_ (fun h => Bool.false_ne_true h.1)
    cases service d.keyId wrapped <;> exact Bool.false_ne_true

variable {d service wrapped}

theorem unwrapContentKey_congr {service' : KeyService}
    (h : ∀ k ∈ (d.unwrapContentKey service wrapped).asked,
      service' k wrapped = service k wrapped) :
    d.unwrapContentKey service' wrapped = d.unwrapContentKey service wrapped := by
  unfold unwrapContentKey at h ⊢
  split
  next hrotation =>
    rw [if_pos hrotation] at h
    have hasked : ∀ k ∈ (walk service wrapped d.chain).asked,
        service' k wrapped = service k wrapped := by
      dsimp only at h
      split at h <;> exact h
    rw [walk_congr hasked]
  next hrotation =>
    rw [if_neg hrotation] at h
    have hasked : service' d.keyId wrapped = service d.keyId wrapped := by
      split at h <;> exact h _ (List.mem_singleton.2 rfl)
    rw [hasked]

end Decrypter

/-! ### Envelopes that are asked about -/

/-- An envelope has all parts that an opening needs, and names the only algorithms in use. -/
structure Complete (e : Envelope) (wrapped initialValue tag : Bytes) : Prop where
  wrappedKey : e.wrappedKey = some wrapped
  initialValue : e.initialValue = some initialValue
  tag : e.tag = some tag
  algorithm : e.header.algorithm = .str "RSA-OAEP-256"
  method : e.header.method = .str "A256GCM"

namespace Decrypter

theorem requirements_eq_ok {e : Envelope} {wrapped initialValue tag : Bytes} :
    requirements e = .ok (wrapped, initialValue, tag) ↔ e.Complete wrapped initialValue tag := by
  unfold requirements
  constructor
  · intro h
    split at h
    · cases h
    · cases h
    · cases h
    next hwrapped hvalue htag =>
      split at h
      next hsupported =>
        cases h
        exact ⟨hwrapped, hvalue, htag, hsupported.1, hsupported.2⟩
      · cases h
  · intro h
    rw [h.wrappedKey, h.initialValue, h.tag]
    exact if_pos ⟨h.algorithm, h.method⟩

variable {d : Decrypter} {service : KeyService} {e : Envelope}

/-- No service is asked about any other envelope. -/
theorem decrypt_of_not_complete
    (h : ¬ ∃ wrapped initialValue tag, e.Complete wrapped initialValue tag) :
    ∃ f, ∀ (d : Decrypter) (service : KeyService),
      d.decrypt service e = ⟨.error f, [], false⟩ := by
  unfold decrypt
  cases hrequired : requirements e with
  | error f => exact ⟨f, fun _ _ => rfl⟩
  | ok parts => exact absurd ⟨_, _, _, requirements_eq_ok.1 hrequired⟩ h

/-- The key is unwrapped first; what then becomes of the content asks for nothing more. -/
theorem decrypt_of_complete {wrapped initialValue tag : Bytes}
    (h : e.Complete wrapped initialValue tag) :
    d.decrypt service e =
      ⟨(d.unwrapContentKey service wrapped).result >>= fun key =>
          openContent e key initialValue tag,
        (d.unwrapContentKey service wrapped).asked,
        (d.unwrapContentKey service wrapped).exhausted⟩ := by
  have hexhausted := exhausted_unwrapContentKey d service wrapped
  unfold decrypt
  rw [requirements_eq_ok.2 h]
  dsimp only
  generalize d.unwrapContentKey service wrapped = unwrapped at hexhausted ⊢
  obtain ⟨result, asked, exhausted⟩ := unwrapped
  cases result with
  | error f => rfl
  | ok key =>
    have hfalse : exhausted = false :=
      Bool.eq_false_iff.2 fun hex => Option.some_ne_none key (hexhausted.1 hex).2
    subst hfalse
    show _ = (⟨openContent e key initialValue tag, asked, false⟩ : Opening)
    unfold openContent
    cases e.header.additional? with
    | none => rfl
    | some additional => rfl

/-- A rotation goes along its whole chain in vain for an envelope. -/
def Exhausts (d : Decrypter) (service : KeyService) (e : Envelope) : Prop :=
  d.keyRotation = true ∧ ∃ wrapped initialValue tag, e.Complete wrapped initialValue tag ∧
    ∀ k ∈ d.keyIds, Refuses service wrapped k

theorem exhausted_decrypt : (d.decrypt service e).exhausted = true ↔ d.Exhausts service e := by
  by_cases hcomplete : ∃ wrapped initialValue tag, e.Complete wrapped initialValue tag
  · obtain ⟨wrapped, initialValue, tag, h⟩ := hcomplete
    rw [decrypt_of_complete h, exhausted_unwrapContentKey,
      (asks_unwrapContentKey d service wrapped).eq_none_iff]
    refine and_congr_right fun _ => ⟨fun hrefused => ⟨_, _, _, h, hrefused⟩, ?_⟩
    rintro ⟨wrapped', _, _, h', hrefused⟩
    obtain rfl := Option.some.inj (h.wrappedKey.symm.trans h'.wrappedKey)
    exact hrefused
  · obtain ⟨f, hf⟩ := decrypt_of_not_complete hcomplete
    rw [hf d service]
    refine iff_of_false Bool.false_ne_true ?_
    rintro ⟨-, wrapped, initialValue, tag, h, -⟩
    exact hcomplete ⟨wrapped, initialValue, tag, h⟩

/-- **The key service is asked along the chain, up to the first key that unwraps.** An incomplete
envelope asks for nothing. For a complete one, the first key that unwraps is used and no later one
is asked for, whatever becomes of the content; and where there is none, the opening fails. It counts
as exhausted, once, just where a rotation has gone along its whole chain in vain. And what was asked
for is all that the service was asked: one that answers the same to these ids makes the same
opening. -/
theorem keys_asked_along_chain (d : Decrypter) (service : KeyService) (e : Envelope)
    (counters : Counters) :
    ((¬ ∃ wrapped initialValue tag, e.Complete wrapped initialValue tag) →
      (d.decrypt service e).asked = []) ∧
    (∀ wrapped initialValue tag, e.Complete wrapped initialValue tag →
      ∃ key?, Asks service wrapped d.keyIds (d.decrypt service e).asked key? ∧
        (∀ key, key? = some key →
          (d.decrypt service e).result = openContent e key initialValue tag) ∧
        (key? = none → ∃ f, (d.decrypt service e).result = .error f)) ∧
    (d.Exhausts service e →
      (counters.bumpIf (d.decrypt service e).exhausted .keysUnavailable).count .keysUnavailable =
        counters.count .keysUnavailable + 1) ∧
    (¬ d.Exhausts service e →
      counters.bumpIf (d.decrypt service e).exhausted .keysUnavailable = counters) ∧
    (∀ service' : KeyService,
      (∀ wrapped, e.wrappedKey = some wrapped → ∀ k ∈ (d.decrypt service e).asked,
        service' k wrapped = service k wrapped) →
      d.decrypt service' e = d.decrypt service e) := by
  refine ⟨?_, ?_, ?_, ?_, ?_⟩
  · intro h
    obtain ⟨f, hf⟩ := decrypt_of_not_complete h
    rw [hf d service]
  · intro wrapped initialValue tag h
    rw [decrypt_of_complete h]
    refine ⟨_, asks_unwrapContentKey d service wrapped, ?_, ?_⟩
    · intro key hkey
      rw [eq_ok_of_toOption hkey]
      rfl
    · intro hnone
      cases hresult : (d.unwrapContentKey service wrapped).result with
      | error f => exact ⟨f, rfl⟩
      | ok key =>
        rw [hresult] at hnone
        exact absurd hnone (Option.some_ne_none key)
  · intro h
    rw [exhausted_decrypt.2 h]
    exact Counters.count_bump _ _ _
  · intro h
    rw [Bool.eq_false_iff.2 (mt exhausted_decrypt.1 h)]
    rfl
  · intro service' hagree
    by_cases hcomplete : ∃ wrapped initialValue tag, e.Complete wrapped initialValue tag
    · obtain ⟨wrapped, initialValue, tag, h⟩ := hcomplete
      have hasked := hagree wrapped h.wrappedKey
      rw [decrypt_of_complete h] at hasked
      rw [decrypt_of_complete h, decrypt_of_complete h, unwrapContentKey_congr hasked]
    · obtain ⟨f, hf⟩ := decrypt_of_not_complete hcomplete
      rw [hf d service', hf d service]

end Decrypter

/-! #### A rotation -/

namespace Rotation

/-- A rotation with the legacy key after it. -/
def decrypter : Decrypter := ⟨"session_decryption_key", true, true, Candidate.rotation⟩

/-- A service without the active key, whose inactive key unwraps to too few bytes. -/
def service : KeyService := fun keyId _ =>
  if keyId = "session_decryption_key_active_alias" then .error (.unknown keyId)
  else if keyId = "session_decryption_key_inactive_alias" then .ok [0]
  else .ok (List.replicate 32 0)

/-- An envelope that has all its parts. -/
def envelope : Envelope :=
  ⟨⟨[("alg", .str "RSA-OAEP-256"), ("enc", .str "A256GCM")], "e30"⟩, some [1],
    some (List.replicate 12 0), [], some (List.replicate 16 0)⟩

/-- The inactive key is used, and the content does not decrypt with it. The previous key, which
might do, is not asked for. -/
theorem previous_key_is_not_asked_for :
    envelope.Complete [1] (List.replicate 12 0) (List.replicate 16 0) ∧
    (decrypter.decrypt service envelope).asked =
      ["session_decryption_key_active_alias", "session_decryption_key_inactive_alias"] ∧
    (decrypter.decrypt service envelope).result = .error (.contentKeyLength 1) := by
  have hcomplete : envelope.Complete [1] (List.replicate 12 0) (List.replicate 16 0) :=
    ⟨rfl, rfl, rfl, rfl, rfl⟩
  obtain ⟨-, hasked, -⟩ :=
    Decrypter.keys_asked_along_chain decrypter service envelope .zero
  obtain ⟨key?, hasks, hcontent, -⟩ := hasked _ _ _ hcomplete
  have hfound : Asks service [1] decrypter.keyIds
      ["session_decryption_key_active_alias", "session_decryption_key_inactive_alias"]
      (some [0]) :=
    .found ["session_decryption_key_active_alias"]
      ["session_decryption_key_previous_alias", "session_decryption_key"]
      "session_decryption_key_inactive_alias" [0] rfl
      (List.forall_mem_singleton.2 ⟨_, rfl⟩) rfl
  obtain ⟨hids, hkey⟩ := hasks.unique hfound
  exact ⟨hcomplete, hids, (hcontent [0] hkey).trans rfl⟩

end Rotation

/-! ### What was sealed, wherever its key stands -/

/-- Some bytes are a spelling of a JSON object with these members. -/
def Spells (header : Bytes) (members : List (Text × Json)) : Prop :=
  ∃ text, Utf8.decode? header = some text ∧ Json.read? text = some (.obj members)

/-- An object is spelled by what is written for it. -/
theorem spells_of_write {header : Bytes} {members : List (Text × Json)}
    (hdistinct : (Json.obj members).HasDistinctKeys)
    (h : Utf8.encode? (Json.write .inOrder (.obj members)) = some header) :
    Spells header members :=
  ⟨_, Utf8.decode?_encode? h, Json.read?_write hdistinct⟩

/-- **What was sealed is opened with the first key of the chain that unwraps.** The header may be
any spelling of an object that names the two algorithms, and may have any other members. -/
theorem sealed_opens_along_chain {d : Decrypter} {service : KeyService}
    {header wrapped contentKey initialValue : Bytes} {members : List (Text × Json)}
    {earlier later : List Text} {keyId : Text} (payload : Bytes)
    (spelled : Spells header members)
    (algorithm : (Json.obj members).member "alg" = .str "RSA-OAEP-256")
    (method : (Json.obj members).member "enc" = .str "A256GCM")
    (keyLength : contentKey.length = 32)
    (initialValueLength : 8 ≤ initialValue.length ∧ initialValue.length ≤ 128)
    (filled : wrapped ≠ [])
    (chain : d.keyIds = earlier ++ keyId :: later)
    (refused : ∀ k ∈ earlier, Refuses service wrapped k)
    (unwrapped : service keyId wrapped = .ok contentKey) :
    (d.decryptCompact service (encrypt header wrapped contentKey initialValue payload)).result =
      .ok payload := by
  obtain ⟨text, htext, hread⟩ := spelled
  have hasks : Asks service wrapped d.keyIds (earlier ++ [keyId]) (some contentKey) :=
    .found earlier later keyId contentKey chain refused unwrapped
  have hunwrapped : (d.unwrapContentKey service wrapped).result = .ok contentKey :=
    eq_ok_of_toOption ((d.asks_unwrapContentKey service wrapped).unique hasks).2
  exact (decryptCompact_encrypt payload htext hread algorithm method filled hunwrapped keyLength
    initialValueLength).1

namespace Rotation

/-- The members of a header that says more than it has to. -/
def members : List (Text × Json) :=
  [("kid", .null), ("enc", .str "A256GCM"), ("alg", .str "RSA-OAEP-256"), ("crit", .arr [])]

/-- A service that has only the legacy key. -/
def legacyService : KeyService := fun keyId _ =>
  if keyId = "session_decryption_key" then .ok (List.replicate 32 7) else .error (.unknown keyId)

/-- The ids of the rotation. -/
def rotationIds : List Text :=
  ["session_decryption_key_active_alias", "session_decryption_key_inactive_alias",
    "session_decryption_key_previous_alias"]

/-- The empty payload is sealed for the last key of the chain, and with an initial value that is
not of the usual length. -/
theorem legacy_key_opens :
    decrypter.keyIds = rotationIds ++ [decrypter.keyId] ∧
    (∀ k ∈ rotationIds, Refuses legacyService [1] k) ∧
    (decrypter.decryptCompact legacyService
      (encrypt (Bytes.ofAscii (Json.write .inOrder (.obj members))) [1] (List.replicate 32 7)
        (List.replicate 16 0) [])).result = .ok [] := by
  have hdistinct : (Json.obj members).HasDistinctKeys := by
    refine .obj (by decide) ?_
    simp only [members, List.forall_mem_cons, List.not_mem_nil, false_implies, implies_true,
      and_true]
    exact ⟨.null, .str _, .str _, .arr fun v hv => absurd hv List.not_mem_nil⟩
  have hspelled : Spells (Bytes.ofAscii (Json.write .inOrder (.obj members))) members :=
    spells_of_write hdistinct (by decide +kernel)
  have hchain : decrypter.keyIds = rotationIds ++ [decrypter.keyId] := rfl
  have hrefused : ∀ k ∈ rotationIds, Refuses legacyService [1] k := by
    simp only [rotationIds, List.forall_mem_cons, List.not_mem_nil, false_implies, implies_true,
      and_true]
    exact ⟨⟨_, rfl⟩, ⟨_, rfl⟩, ⟨_, rfl⟩⟩
  have hunwrapped : legacyService decrypter.keyId [1] = .ok (List.replicate 32 7) := rfl
  exact ⟨hchain, hrefused, sealed_opens_along_chain [] hspelled rfl rfl (by decide) (by decide)
    (by decide) hchain hrefused hunwrapped⟩

end Rotation

end Envelope

end Issuance
