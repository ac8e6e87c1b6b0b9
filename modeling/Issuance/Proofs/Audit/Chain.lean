import Issuance.Proofs.Audit.Passage

/-!
# Issuance.Proofs.Audit.Chain

**Tamper evidence.** A log that verifies is a chain: each line names the hash of the line before it
and is hashed together with it, so the last hash stands for all that was logged. Two logs that
verify against the same last hash hold the same events, unless the hash function itself is broken
on what was hashed for them (`same_events_or_clash`).

Chains are read from their newest line, since that is where two of them are known to agree.
-/

namespace Issuance

theorem Hex.encode_injective {a b : Bytes} (h : encode a = encode b) : a = b := by
  have hread := congrArg decode? h
  rw [decode?_encode, decode?_encode] at hread
  exact Option.some.inj hread

namespace Audit

/-! ### What a log holds -/

/-- The canonical form of a line's event without its chain fields. -/
def eventBytes? (line : Text) : Option Bytes :=
  match Json.read? line with
  | some (.obj members) => Json.canonicalBytes? (.obj (unlinked members))
  | _ => none

/-- What is hashed for a line: the bytes of the hash that it is linked to, and its event. -/
def lineInput? (line : Text) : Option Bytes :=
  match Json.read? line with
  | some (.obj members) => match Verdict.claimedHash? members previousField with
    | some previous => (hashInput previous members).toOption
    | none => none
  | _ => none

/-- Lines hold events: each line has one, and these are their canonical forms in order. -/
def Hold (lines : List Text) (events : List Bytes) : Prop :=
  lines.map eventBytes? = events.map some

/-- The hash function is broken on these inputs: two of them have the same digest, or the digest of
one is what the chain begins at. -/
def Clash (inputs : List Bytes) : Prop :=
  (∃ a ∈ inputs, ∃ b ∈ inputs, a ≠ b ∧ Hash.sha3.digest a = Hash.sha3.digest b) ∨
    ∃ a ∈ inputs, Hash.sha3.digest a = List.replicate 32 0

theorem Clash.mono {inputs inputs' : List Bytes} (h : Clash inputs)
    (hsub : ∀ a ∈ inputs, a ∈ inputs') : Clash inputs' := by
  rcases h with ⟨a, ha, b, hb, hne, heq⟩ | ⟨a, ha, heq⟩
  · exact Or.inl ⟨a, hsub a ha, b, hsub b hb, hne, heq⟩
  · exact Or.inr ⟨a, hsub a ha, heq⟩

/-! ### Verified lines are a chain -/

/-- Lines, the newest first, each linked to the one after it in the list, and the hash of the
newest. -/
inductive Chained : List Text → Text → Prop
  | genesis : Chained [] genesis
  | line {lines : List Text} {previous line hash : Text} :
    Chained lines previous → Verdict.Links previous line hash → Chained (line :: lines) hash

/-- What a linked line comes to: the bytes of the hash before it, its event, and the digest of
both. -/
theorem Verdict.Links.split {previous line hash : Text} (h : Links previous line hash) :
    ∃ head body, Hex.decode? previous = some head ∧ eventBytes? line = some body ∧
      lineInput? line = some (head ++ body) ∧ hash = digest (head ++ body) := by
  obtain ⟨members, hread, hprevious, -, hchain⟩ := h
  obtain ⟨head, body, hhead, hbody, hinput, hhash⟩ := chainHash_eq_ok hchain
  refine ⟨head, body, hhead, ?_, ?_, hhash⟩
  · simp only [eventBytes?, hread, hbody]
  · simp only [lineInput?, hread, hprevious, hinput]
    rfl

/-- Lines that span on from where a chain ends make it longer. -/
theorem Spans.chained {previous hash : Text} {lines checked : List Text}
    (h : Spans previous lines hash) (hchecked : Chained checked previous) :
    Chained (lines.reverse ++ checked) hash := by
  induction h generalizing checked with
  | nil => exact hchecked
  | cons hlinks _ ih =>
    rw [List.reverse_cons, List.append_assoc]
    exact ih (.line hchecked hlinks)

theorem Chained.isDigest {lines : List Text} {hash : Text} (h : Chained lines hash) :
    IsDigest hash := by
  cases h with
  | genesis => exact isDigest_genesis
  | line _ hlinks =>
    obtain ⟨head, body, -, -, -, rfl⟩ := hlinks.split
    exact isDigest_digest _

/-- Every line of a chain has an event. -/
theorem Chained.hold {lines : List Text} {hash : Text} (h : Chained lines hash) :
    ∃ events, Hold lines events := by
  induction h with
  | genesis => exact ⟨[], rfl⟩
  | line _ hlinks ih =>
    obtain ⟨events, hevents⟩ := ih
    obtain ⟨head, body, -, hevent, -, -⟩ := hlinks.split
    refine ⟨body :: events, ?_⟩
    unfold Hold at *
    rw [List.map_cons, List.map_cons, hevent, hevents]

/-! ### The last hash stands for the chain -/

/-- What is hashed for lines. -/
def inputs (lines : List Text) : List Bytes := lines.filterMap lineInput?

theorem mem_inputs {lines : List Text} {line : Text} (h : line ∈ lines) {input : Bytes}
    (hinput : lineInput? line = some input) : input ∈ inputs lines :=
  List.mem_filterMap.2 ⟨line, h, hinput⟩

theorem mem_inputs_cons {lines : List Text} {input : Bytes} (h : input ∈ inputs lines)
    (line : Text) : input ∈ inputs (line :: lines) := by
  obtain ⟨line', hmem, hinput⟩ := List.mem_filterMap.1 h
  exact mem_inputs (List.mem_cons_of_mem line hmem) hinput

/-- No line leads to where the chain begins, unless its digest is all zeros. -/
theorem Verdict.Links.clash_of_genesis {previous line : Text} (h : Links previous line genesis)
    {lines : List Text} (hmem : line ∈ lines) : Clash (inputs lines) := by
  obtain ⟨head, body, -, -, hinput, hhash⟩ := h.split
  have hzero : genesis = Hex.encode (List.replicate 32 0) := by decide
  rw [hzero] at hhash
  exact Or.inr ⟨head ++ body, mem_inputs hmem hinput, (Hex.encode_injective hhash).symm⟩

/-- Two lines with the same hash have the same event after the same hash, or their inputs
clash. -/
theorem Verdict.Links.same {previous₁ previous₂ line₁ line₂ hash : Text}
    (h₁ : Links previous₁ line₁ hash) (h₂ : Links previous₂ line₂ hash)
    (hd₁ : IsDigest previous₁) (hd₂ : IsDigest previous₂) :
    (previous₁ = previous₂ ∧ eventBytes? line₁ = eventBytes? line₂) ∨
      Clash (inputs [line₁, line₂]) := by
  obtain ⟨head₁, body₁, hhead₁, hevent₁, hinput₁, hhash₁⟩ := h₁.split
  obtain ⟨head₂, body₂, hhead₂, hevent₂, hinput₂, hhash₂⟩ := h₂.split
  have hdigest : Hash.sha3.digest (head₁ ++ body₁) = Hash.sha3.digest (head₂ ++ body₂) :=
    Hex.encode_injective (hhash₁.symm.trans hhash₂)
  by_cases heq : head₁ ++ body₁ = head₂ ++ body₂
  · left
    -- both heads are the 32 bytes of a digest, so the inputs come apart at the same place
    obtain ⟨bs₁, hlen₁, rfl⟩ := hd₁
    obtain ⟨bs₂, hlen₂, rfl⟩ := hd₂
    rw [Hex.decode?_encode] at hhead₁ hhead₂
    cases hhead₁
    cases hhead₂
    obtain ⟨rfl, rfl⟩ := List.append_inj heq (hlen₁.trans hlen₂.symm)
    exact ⟨rfl, hevent₁.trans hevent₂.symm⟩
  · right
    exact Or.inl ⟨_, mem_inputs (by simp) hinput₁, _, mem_inputs (by simp) hinput₂, heq, hdigest⟩

/-- **Two chains with the same last hash hold the same events**, or their inputs clash. The
induction is along the first chain, newest line first, with the second chain general. -/
theorem Chained.same {lines₁ lines₂ : List Text} {hash : Text} (h₁ : Chained lines₁ hash)
    (h₂ : Chained lines₂ hash) :
    lines₁.map eventBytes? = lines₂.map eventBytes? ∨ Clash (inputs lines₁ ++ inputs lines₂) := by
  induction h₁ generalizing lines₂ with
  | genesis =>
    cases h₂ with
    | genesis => exact Or.inl rfl
    | line _ hlinks => exact Or.inr (hlinks.clash_of_genesis List.mem_cons_self)
  | @line lines₁ previous₁ line₁ hash hchain₁ hlinks₁ ih =>
    cases h₂ with
    | genesis =>
      have hclash := hlinks₁.clash_of_genesis (List.mem_cons_self (l := lines₁))
      exact Or.inr (hclash.mono fun a ha => List.mem_append_left _ ha)
    | @line lines₂ previous₂ line₂ _ hchain₂ hlinks₂ =>
      rcases hlinks₁.same hlinks₂ hchain₁.isDigest hchain₂.isDigest with
        ⟨rfl, hevent⟩ | hclash
      · rcases ih hchain₂ with hevents | hclash
        · left
          rw [List.map_cons, List.map_cons, hevent, hevents]
        · refine Or.inr (hclash.mono fun a ha => List.mem_append.2 ?_)
          exact (List.mem_append.1 ha).imp (mem_inputs_cons · line₁) (mem_inputs_cons · line₂)
      · refine Or.inr (hclash.mono fun a ha => List.mem_append.2 ?_)
        obtain ⟨line, hmem, hinput⟩ := List.mem_filterMap.1 ha
        rcases List.mem_cons.1 hmem with rfl | hmem
        · exact Or.inl (mem_inputs List.mem_cons_self hinput)
        · obtain rfl := List.mem_singleton.1 hmem
          exact Or.inr (mem_inputs List.mem_cons_self hinput)

/-! ### What the verifier has seen -/

namespace Verdict

/-- What progress through a log says of the lines that were checked, the newest first. -/
structure Progress.Covers (p : Progress) (checked : List Text) : Prop where
  chained : Chained checked p.previous
  lines : p.lines = checked.length
  lastHash : p.lastHash = none ↔ checked = []

theorem Progress.Covers.isDigest {p : Progress} {checked : List Text} (h : p.Covers checked)
    {hash : Text} (hlast : p.lastHash = some hash) : IsDigest hash := by
  have hchained := h.chained
  simp only [Progress.previous, hlast, Option.getD_some] at hchained
  exact hchained.isDigest

/-- A good log is covered as far as its lines go. -/
theorem covers_of_good {log state : Bytes} {lines : List Text} {hash : Text}
    (h : Good log state lines hash) :
    Progress.Covers ⟨lines.length, newest? lines hash⟩ lines.reverse where
  chained := by
    have hchained := h.spans.chained .genesis
    rw [List.append_nil] at hchained
    cases lines with
    | nil => exact .genesis
    | cons line lines =>
      show Chained _ ((newest? (line :: lines) hash).getD genesis)
      rwa [newest?_cons]
  lines := List.length_reverse.symm
  lastHash := by cases lines <;> simp

/-- A log verifies against a file with the last hash only if the file holds the log's last hash,
and nothing where the log has no lines. -/
theorem verify_covers {logPath statePath : Text} {log state : Bytes} {v : Verdict}
    (h : verify logPath (.file log) (some (statePath, .file state)) = .ok v) (hok : v.ok = true) :
    ∃ p : Progress, p.Covers (entries log).reverse ∧
      stateText? state = some (p.lastHash.getD []) ∧ v = ⟨true, p.lines, p.lastHash, "OK"⟩ := by
  obtain ⟨lines, hash, hgood, rfl⟩ := verify_good_iff.1 ⟨h, hok⟩
  refine ⟨⟨lines.length, newest? lines hash⟩, ?_, hgood.state, rfl⟩
  rw [hgood.entries_eq]
  exact covers_of_good hgood

/-- The same text in the file with the last hash is the same last hash. -/
theorem Progress.Covers.lastHash_eq {p₁ p₂ : Progress} {checked₁ checked₂ : List Text}
    (h₁ : p₁.Covers checked₁) (h₂ : p₂.Covers checked₂)
    (h : p₁.lastHash.getD [] = p₂.lastHash.getD []) : p₁.lastHash = p₂.lastHash := by
  have hne : ∀ {p : Progress} {checked : List Text}, p.Covers checked → ∀ {hash : Text},
      p.lastHash = some hash → hash ≠ [] :=
    fun hp _ hlast => (hp.isDigest hlast).ne_nil
  cases hlast₁ : p₁.lastHash with
  | none =>
    cases hlast₂ : p₂.lastHash with
    | none => rfl
    | some hash₂ =>
      rw [hlast₁, hlast₂] at h
      exact absurd h.symm (hne h₂ hlast₂)
  | some hash₁ =>
    cases hlast₂ : p₂.lastHash with
    | none =>
      rw [hlast₁, hlast₂] at h
      exact absurd h (hne h₁ hlast₁)
    | some hash₂ =>
      rw [hlast₁, hlast₂] at h
      exact congrArg some h

/-- **Tamper evidence.** Two logs that verify against the same file hold the same events line by
line, unless the hash function is broken on what was hashed for their lines. -/
theorem same_events_or_clash {logPath₁ logPath₂ statePath₁ statePath₂ : Text}
    {log₁ log₂ state : Bytes} {v₁ v₂ : Verdict}
    (h₁ : verify logPath₁ (.file log₁) (some (statePath₁, .file state)) = .ok v₁)
    (hok₁ : v₁.ok = true)
    (h₂ : verify logPath₂ (.file log₂) (some (statePath₂, .file state)) = .ok v₂)
    (hok₂ : v₂.ok = true) :
    (∃ events, Hold (entries log₁) events ∧ Hold (entries log₂) events) ∨
      Clash (inputs (entries log₁) ++ inputs (entries log₂)) := by
  obtain ⟨p₁, hcovers₁, hstate₁, -⟩ := verify_covers h₁ hok₁
  obtain ⟨p₂, hcovers₂, hstate₂, -⟩ := verify_covers h₂ hok₂
  have hlast : p₁.lastHash = p₂.lastHash :=
    hcovers₁.lastHash_eq hcovers₂ (Option.some.inj (hstate₁.symm.trans hstate₂))
  have hprevious : p₁.previous = p₂.previous := by
    rw [Progress.previous, Progress.previous, hlast]
  have hchained₂ := hcovers₂.chained
  rw [← hprevious] at hchained₂
  rcases hcovers₁.chained.same hchained₂ with hsame | hclash
  · left
    rw [List.map_reverse, List.map_reverse, List.reverse_inj] at hsame
    obtain ⟨events, hevents⟩ := hcovers₁.chained.hold
    have hold₁ : Hold (entries log₁) events.reverse := by
      unfold Hold at *
      rw [List.map_reverse, List.reverse_eq_iff] at hevents
      rw [hevents, List.map_reverse]
    exact ⟨events.reverse, hold₁, hsame.symm.trans hold₁⟩
  · right
    refine hclash.mono fun a ha => List.mem_append.2 ?_
    have hback : ∀ {lines : List Text}, a ∈ inputs lines.reverse → a ∈ inputs lines := by
      intro lines ha
      rw [inputs, List.filterMap_reverse] at ha
      exact List.mem_reverse.1 ha
    exact (List.mem_append.1 ha).imp hback hback

end Verdict

end Audit

end Issuance
