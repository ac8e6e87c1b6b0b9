import Issuance.Proofs.Service.Counting

/-!
# Issuance.Proofs.Service.Tally

**The counters account for every request.** What the operations count for one request can be read
off its answer, and for a session that is opened off the log (`Adds.handle`), and so along a run it
can be read off its dialogue and the log (`Adds.run`). What is counted for failures of endpoints
follows the paths of the URLs (`count_run_failed`), and where requests keep their paths, it makes up
the rest of the requests.
-/

namespace Issuance

/-! ### What a request adds to the log -/

namespace Audit

/-- What the lines tell that were added to a log. -/
def Trail.news (source : Source) (before after : Trail) : List (Option Occurrence) :=
  (entries ((after.log?.getD []).drop (before.log?.getD []).length)).map (Occurrence.ofLine? source)

/-- A line tells that a session was started. -/
def IsStart (o : Option Occurrence) : Prop := o.map Occurrence.type = some .start

instance : DecidablePred IsStart := fun o =>
  inferInstanceAs (Decidable (o.map Occurrence.type = some .start))

namespace Trail

variable {source : Source} {trail trail' : Trail}

/-- A log that is as it was has no news. -/
theorem news_of_same (h : trail'.log? = trail.log?) : news source trail trail' = [] := by
  have hentries : entries [] = linesOf genesis [] := entries_linesOf rfl
  simp [news, h, hentries, linesOf]

/-- The line of an event is the only one in its bytes. -/
theorem entries_line {previous hash : Text} {event : List (Text × Json)} {bs : Bytes}
    (h : line previous event = .ok (bs, hash)) : entries bs = [lineText previous hash event] := by
  obtain ⟨-, body, hbody, rfl⟩ := line_eq_ok h
  have hbreak : Utf8.encode? [CodePoint.ofNat 0x0A] = some [0x0A] := by decide
  show entries _ = linesOf previous [(event, hash)]
  refine entries_linesOf ?_
  simpa [linesOf, Text.ended] using Utf8.encode?_append hbody hbreak

variable {type : EventType} {s : Session} {clientAddress : Option Text}
  {extensions : List (Text × Json)} {now : Int}

/-- What is published is the only news. -/
theorem news_of_recorded
    (distinct : (Json.obj (event source type s clientAddress extensions now)).HasDistinctKeys)
    (recorded : trail.publish source type s clientAddress extensions now = (.ok (), trail')) :
    news source trail trail' = [some ⟨type, s.id⟩] := by
  obtain ⟨hash, -, previous, bs, -, hline, rfl⟩ := publish_eq_ok recorded
  simp [news, log?, entries_line hline, Occurrence.ofLine?_lineText distinct,
    Occurrence.ofEvent?_event]

/-- What fails to be published is no news. -/
theorem news_of_unrecorded {f : Issuance.Fault}
    (failed : trail.publish source type s clientAddress extensions now = (.error f, trail')) :
    news source trail trail' = [] := by
  refine news_of_same ?_
  simp only [publish] at failed
  split at failed
  · cases failed
  · rename_i happend
    cases failed
    exact (append_eq_error happend).1

/-- What is published of a session after its start tells of no start. -/
theorem no_start_of_publish
    (stated : ∀ v ∈ [s.subject, s.persistentSessionId, s.clientSessionId], v.HasDistinctKeys)
    (later : type ≠ .start) :
    (news source trail (trail.publish source type s clientAddress [] now).2).countP (IsStart ·) =
      0 := by
  rcases hpublish : trail.publish source type s clientAddress [] now with ⟨f | _, trail'⟩
  · rw [news_of_unrecorded hpublish]
    rfl
  · rw [news_of_recorded (hasDistinctKeys_event stated Json.hasDistinctKeys_nil _ _ _ _) hpublish]
    simp [IsStart, later]

end Trail

end Audit

/-! ### What a request and its answer tell -/

namespace Http

open Session.Fault (replayDescription)

/-- The text under a name in the body of an answer. -/
def Response.text? (answer : Response) (name : Text) : Option Text :=
  match answer.content with
  | .json v => (v.member name).text?
  | .text _ => none

/-- An exchange that is answered as a replay. -/
def IsReplay (p : Request × Response) : Prop :=
  p.1.IsFor .token ∧ p.2.text? "error_description" = some replayDescription

/-- An exchange that is answered as an invalid grant, but not as a replay. -/
def IsUnverified (p : Request × Response) : Prop :=
  p.1.IsFor .token ∧ p.2.status = 400 ∧ p.2.text? "error" = some "invalid_grant" ∧
    p.2.text? "error_description" ≠ some replayDescription

instance : DecidablePred IsReplay := fun p =>
  inferInstanceAs (Decidable (_ ∧ p.2.text? "error_description" = some replayDescription))

instance : DecidablePred IsUnverified := fun p =>
  inferInstanceAs (Decidable (_ ∧ _ ∧ _ ∧ p.2.text? "error_description" ≠ some replayDescription))

end Http

namespace Issuer

open Http Session SessionRequest Audit
open Session.Fault (replayDescription)

/-! ### What is counted for one request -/

/-- Counters but those of failures have grown by what requests with their answers tell, and what
was published. -/
structure Adds (k k' : Counters) (asked : List (Request × Response))
    (published : List (Option Occurrence)) : Prop where
  issued : k'.count .accessTokenIssued =
    k.count .accessTokenIssued + asked.countP (Succeeds .token ·)
  replayed : k'.count .codeReplayed = k.count .codeReplayed + asked.countP (IsReplay ·)
  unverified : k'.count .tokenVerificationFailed =
    k.count .tokenVerificationFailed + asked.countP (IsUnverified ·)
  sent : k'.count .authorizationSent =
    k.count .authorizationSent + asked.countP (Succeeds .authorization ·)
  opened : k'.count .sessionCreated = k.count .sessionCreated + published.countP (IsStart ·)

namespace Adds

variable {k k' k'' : Counters} {asked asked' : List (Request × Response)}
  {published published' : List (Option Occurrence)}

theorem refl (k : Counters) : Adds k k [] [] := ⟨rfl, rfl, rfl, rfl, rfl⟩

theorem trans (h : Adds k k' asked published) (h' : Adds k' k'' asked' published') :
    Adds k k'' (asked ++ asked') (published ++ published') where
  issued := by rw [List.countP_append, h'.issued, h.issued, Nat.add_assoc]
  replayed := by rw [List.countP_append, h'.replayed, h.replayed, Nat.add_assoc]
  unverified := by rw [List.countP_append, h'.unverified, h.unverified, Nat.add_assoc]
  sent := by rw [List.countP_append, h'.sent, h.sent, Nat.add_assoc]
  opened := by rw [List.countP_append, h'.opened, h.opened, Nat.add_assoc]

/-- A request for neither of the two endpoints that count their answers. -/
theorem of_other {p : Request × Response} (token : ¬ p.1.IsFor .token)
    (authorization : ¬ p.1.IsFor .authorization)
    (same : ∀ c ∈ [Counter.accessTokenIssued, .codeReplayed, .tokenVerificationFailed,
      .authorizationSent], k'.count c = k.count c)
    (opened : k'.count .sessionCreated = k.count .sessionCreated + published.countP (IsStart ·)) :
    Adds k k' [p] published := by
  simp only [List.forall_mem_cons] at same
  obtain ⟨hissued, hreplayed, hunverified, hsent, -⟩ := same
  constructor <;>
    simp [Succeeds, IsReplay, IsUnverified, token, authorization, hissued, hreplayed, hunverified,
      hsent, opened]

end Adds

section Request

variable {i : Issuer} {st : State} {r : Request} {news : List (Option Occurrence)}

/-- A failure of an exchange tells in its answer what was counted. -/
theorem isReplay_answer {f : Failure} (plain : IsPlain f) (isFor : r.IsFor .token) :
    (IsReplay (r, ⟨f.status, .json f.body⟩) ↔ isReplay f = true) ∧
      (IsUnverified (r, ⟨f.status, .json f.body⟩) ↔ isUnverified f = true) := by
  simp only [IsReplay, IsUnverified, isFor, true_and]
  cases f with
  | internal => decide
  | fault f =>
    have hdescription :
        f.description = if f.kind = .replayDetected then some replayDescription else none := plain
    -- all that is left in the answer is the kind
    simp only [Failure.status, Failure.body, Fault.status, Fault.body, isReplay, isUnverified,
      hdescription]
    generalize f.kind = kind
    cases kind <;> decide

/-- What is counted for an exchange. -/
theorem adds_token (safe : i.generators.UrlSafe) (isFor : r.IsFor .token)
    (later : news.countP (IsStart ·) = 0) :
    Adds st.counters (i.handle r st).2.counters [(r, (i.handle r st).1)] news := by
  have hcounts := exchange_counts i (.bytes r.body) r.clientAddress st
  have hstep := exchange_step i (.bytes r.body) r.clientAddress st
  have hother : ¬ r.IsFor .authorization := by simp [isFor.iff_eq]
  rw [handle_token isFor]
  generalize i.exchange (.bytes r.body) r.clientAddress st = result at hcounts hstep ⊢
  rcases result with ⟨f | v, st'⟩
  · obtain ⟨hreplay, hunverified⟩ := isReplay_answer (hcounts.plain f rfl) isFor
    have hcounted : st'.counters = exchangeCounts st.counters (.error f) := hcounts.counted
    have hanswer : (respond (i.pathInUrl r) 200 (.error f, st')).1 = ⟨f.status, .json f.body⟩ := rfl
    constructor <;> rw [count_respond_of_other (by decide) (by decide)] <;>
      simp [hanswer, hcounted, exchangeCounts, Counters.count_bumpIf_add, Succeeds, f.status_ne_ok,
        hreplay, hunverified, later]
  · have hcounted : st'.counters = st.counters.bump .accessTokenIssued := hcounts.counted
    obtain rfl : v = (st.book.nextToken i.plan).response := by
      cases hstep
      rfl
    have hwritable : isWritable (shown (st.book.nextToken i.plan).response) = true := by
      rw [isWritable_response]
      simp [Book.nextToken, Issuer.plan, safe.not_surrogate]
    have hreplay : ¬ IsReplay (r, ⟨200, .json (shown (st.book.nextToken i.plan).response)⟩) := by
      rintro ⟨-, htext⟩
      cases htext
    rw [respond_writable hwritable]
    constructor <;>
      simp [hcounted, Counters.count_bump, Succeeds, IsUnverified, isFor, hother, hreplay, later]

/-- What is counted for a request for the code. -/
theorem adds_authorization (safe : i.generators.UrlSafe) (kept : st.book.Kept i.plan)
    (scalar : r.IsScalar) (isFor : r.IsFor .authorization)
    (later : news.countP (IsStart ·) = 0) :
    Adds st.counters (i.handle r st).2.counters [(r, (i.handle r st).1)] news := by
  obtain ⟨missing, hcounted⟩ := counters_authorize i r.sessionId r.authorization r.clientAddress st
  have hstep := authorize_step i r.sessionId r.authorization r.clientAddress st
  have hother : ¬ r.IsFor .token := by simp [isFor.iff_eq]
  rw [handle_authorization isFor]
  generalize i.authorize r.sessionId r.authorization r.clientAddress st = result
    at hcounted hstep ⊢
  rcases result with ⟨f | v, st'⟩
  · have hanswer : (respond (i.pathInUrl r) 200 (.error f, st')).1 = ⟨f.status, .json f.body⟩ := rfl
    simp only [Except.isOk, Except.toBool] at hcounted
    constructor <;> rw [count_respond_of_other (by decide) (by decide)] <;>
      simp [hanswer, hcounted, Counters.count_bumpIf_add, Succeeds, f.status_ne_ok, IsReplay,
        IsUnverified, hother, later]
  · simp only [Except.isOk, Except.toBool] at hcounted
    have hwritable : isWritable (shown v) = true := by
      cases hstep with
      | sent s client g found grants _ _ _ =>
        obtain ⟨id, -, -, hs, -⟩ := Book.session_ok found
        exact isWritable_of_grants safe kept scalar hs grants
    rw [respond_writable hwritable]
    constructor <;>
      simp [hcounted, Counters.count_bumpIf_add, Succeeds, IsReplay, IsUnverified, isFor, hother,
        later]

/-- A session that is opened is counted, and its start is told. -/
theorem adds_opening (isFor : r.IsFor .session) :
    Adds st.counters (i.handle r st).2.counters [(r, (i.handle r st).1)]
      (Trail.news i.source st.trail (i.handle r st).2.trail) := by
  have hstep := opening_step i (.bytes r.body) r.clientAddress st
  rw [handle_opening isFor, trail_respond]
  refine .of_other (by simp [isFor.iff_eq]) (by simp [isFor.iff_eq]) (fun c hc => ?_) ?_
  · have hother : ∀ c ∈ [Counter.accessTokenIssued, .codeReplayed, .tokenVerificationFailed,
        .authorizationSent], c ∉ failureCounters ∧ c ≠ .sessionCreated ∧ c ≠ .keysUnavailable := by
      decide
    obtain ⟨hfailure, hcreated, hkeys⟩ := hother c hc
    rw [count_respond_of_other (by decide) hfailure, count_openSession i _ _ st hcreated hkeys]
  · rw [count_respond_of_other (by decide) (by decide)]
    generalize i.openSession (.bytes r.body) r.clientAddress st = result at hstep
    cases hstep with
    | refused _ _ counted _ =>
      simp only [sessionCounts, Prod.mk.injEq] at counted
      simp [Trail.news_of_same, counted]
    | unrecorded _ _ _ _ failed _ counted =>
      simp only [sessionCounts, Prod.mk.injEq] at counted
      simp [Trail.news_of_unrecorded failed, counted]
    | opened _ valid _ recorded _ counted =>
      simp only [sessionCounts, Prod.mk.injEq] at counted
      have hnews := Trail.news_of_recorded (hasDistinctKeys_opening valid st.book) recorded
      simp [hnews, IsStart, counted]

/-- What counts no more than a failure, and records nothing. -/
theorem adds_of_same (token : ¬ r.IsFor .token) (authorization : ¬ r.IsFor .authorization)
    (same : ∀ c ∉ failureCounters, (i.handle r st).2.counters.count c = st.counters.count c)
    (trail : (i.handle r st).2.trail = st.trail) :
    Adds st.counters (i.handle r st).2.counters [(r, (i.handle r st).1)]
      (Trail.news i.source st.trail (i.handle r st).2.trail) := by
  have hnews : Trail.news i.source st.trail (i.handle r st).2.trail = [] :=
    Trail.news_of_same (by rw [trail])
  have hother : ∀ c ∈ [Counter.accessTokenIssued, .codeReplayed, .tokenVerificationFailed,
      .authorizationSent], c ∉ failureCounters := by decide
  rw [hnews]
  exact .of_other token authorization (fun c hc => same c (hother c hc)) (same _ (by decide))

end Request

/-! ### What later events tell -/

/-- What the stored sessions state was read from tokens, so events can tell it. -/
def Stated (b : Book) : Prop :=
  ∀ id s, b.store.get? id = some s →
    ∀ v ∈ [s.subject, s.persistentSessionId, s.clientSessionId], v.HasDistinctKeys

section Later

variable {i : Issuer} {st : State} {r : Request}

/-- Every request keeps what sessions state. -/
theorem Stated.handle (kept : st.book.Kept i.plan) (h : Stated st.book) (r : Request) :
    Stated (i.handle r st).2.book := by
  intro id s' hs'
  -- of what a session states nothing changes after its opening
  have hopened : ∀ {s : Session}, s'.asOpened = s.asOpened →
      [s'.subject, s'.persistentSessionId, s'.clientSessionId] =
        [s.subject, s.persistentSessionId, s.clientSessionId] := by
    intro s hsame
    show [s'.asOpened.subject, s'.asOpened.persistentSessionId, s'.asOpened.clientSessionId] = _
    rw [hsame]
    rfl
  rcases handle_stored kept hs' with ⟨s, hs, hstep⟩ | ⟨q, opens⟩
  · rw [hopened hstep.asOpened]
    exact h id s hs
  · rw [hopened (s := (st.book.newSession i.plan st.now q).1) opens.asOpened]
    exact (Validator.hasDistinctKeys_of_valid opens.valid).1

theorem Stated.after (kept : st.book.Kept i.plan) (h : Stated st.book) (e : Event) :
    Stated (i.after st e).book := by
  cases e with
  | request r => exact h.handle kept r
  | advance _ => exact h
  | trail _ => exact h
  | registry _ => exact h

/-- A request for the code tells of no start. -/
theorem no_start_of_authorization (stated : Stated st.book) (isFor : r.IsFor .authorization) :
    (Trail.news i.source st.trail (i.handle r st).2.trail).countP (IsStart ·) = 0 := by
  have hstep := authorize_step i r.sessionId r.authorization r.clientAddress st
  rw [handle_authorization isFor, trail_respond]
  have hpublish : ∀ {s}, st.book.session st.now r.sessionId = .ok s →
      (Trail.news i.source st.trail (st.trail.publish i.source .authorizationSent s
        r.clientAddress [] st.now).2).countP (IsStart ·) = 0 := by
    intro s found
    obtain ⟨id, -, -, hs, -⟩ := Book.session_ok found
    exact Trail.no_start_of_publish (stated id s hs) nofun
  generalize i.authorize r.sessionId r.authorization r.clientAddress st = result at hstep
  cases hstep with
  | refused _ _ => simp [Trail.news_of_same]
  | unrecorded s found f trail failed =>
    have hnone := hpublish found
    rwa [failed] at hnone
  | sent s _ _ found _ trail recorded _ =>
    have hnone := hpublish found
    rwa [recorded] at hnone

/-- An exchange tells of no start. -/
theorem no_start_of_token (kept : st.book.Kept i.plan) (stated : Stated st.book)
    (isFor : r.IsFor .token) :
    (Trail.news i.source st.trail (i.handle r st).2.trail).countP (IsStart ·) = 0 := by
  rw [handle_token isFor, trail_respond]
  have hpublish : ∀ {q s} (type : EventType), Accepts (.bytes r.body) st q s → type ≠ .start →
      (Trail.news i.source st.trail (st.trail.publish i.source type s r.clientAddress []
        st.now).2).countP (IsStart ·) = 0 := fun type accepts later =>
    Trail.no_start_of_publish (stated _ _ (accepts.stored kept).1) later
  by_cases hspent : ∃ q s, Accepts (.bytes r.body) st q s ∧ s.accessToken.isSome
  · obtain ⟨q, s, accepts, spent⟩ := hspent
    rw [trail_of_spent i accepts spent r.clientAddress]
    exact hpublish .codeReplayed accepts nofun
  · have hstep := exchange_step i (.bytes r.body) r.clientAddress st
    generalize i.exchange (.bytes r.body) r.clientAddress st = result at hstep
    cases hstep with
    | refused _ _ _ => simp [Trail.news_of_same]
    | replayed q s accepts _ _ spent _ _ =>
      exact absurd ⟨q, s, accepts, accepts.isSome_of_spent kept spent⟩ hspent
    | missing _ _ _ _ => simp [Trail.news_of_same]
    | unrecorded q s stored accepts _ f trail failed =>
      have hnone := hpublish .accessTokenIssued accepts nofun
      rwa [failed] at hnone
    | issued q s stored accepts _ trail recorded _ =>
      have hnone := hpublish .accessTokenIssued accepts nofun
      rwa [recorded] at hnone

end Later

/-! ### A whole run -/

/-- **What is counted for a request is told by its answer and by the log.** -/
theorem Adds.handle {i : Issuer} {st : State} {r : Request} (safe : i.generators.UrlSafe)
    (kept : st.book.Kept i.plan) (stated : Stated st.book) (scalar : r.IsScalar) :
    Adds st.counters (i.handle r st).2.counters [(r, (i.handle r st).1)]
      (Trail.news i.source st.trail (i.handle r st).2.trail) := by
  by_cases htoken : r.IsFor .token
  · exact adds_token safe htoken (no_start_of_token kept stated htoken)
  by_cases hauthorization : r.IsFor .authorization
  · exact adds_authorization safe kept scalar hauthorization
      (no_start_of_authorization stated hauthorization)
  rcases isFor_or_notServed i r st with ⟨e, isFor⟩ | ⟨-, hsame⟩
  · cases e with
    | session => exact adds_opening isFor
    | authorization => exact absurd isFor hauthorization
    | authorizationCode =>
      have hcode : (∀ c ∉ failureCounters, (i.handle r st).2.counters.count c =
          st.counters.count c) ∧ (i.handle r st).2.trail = st.trail := by
        have hstep := code_step i st isFor
        generalize i.handle r st = result at hstep
        cases hstep with
        | refused _ =>
          refine ⟨fun c hc => ?_, trail_countFailure _ _⟩
          rw [count_countFailure, if_neg fun hfound => hc (mem_failureCounters hfound),
            Nat.add_zero]
        | given _ _ _ _ _ _ => exact ⟨fun _ _ => rfl, rfl⟩
      exact adds_of_same htoken hauthorization hcode.1 hcode.2
    | token => exact absurd isFor htoken
    | metrics =>
      refine adds_of_same htoken hauthorization (fun _ _ => ?_) ?_ <;>
      · rw [handle_of_isFor isFor]
        rfl
  · exact adds_of_same htoken hauthorization (fun _ _ => by rw [hsame]) (by rw [hsame])

/-- What the requests among events added to the log. -/
def published (i : Issuer) (st : State) : List Event → List (Option Occurrence)
  | [] => []
  | e :: events =>
    (match e with
      | .request r => Trail.news i.source st.trail (i.handle r st).2.trail
      | .advance _ | .trail _ | .registry _ => []) ++ i.published (i.after st e) events

/-- Along a run the counters grow by what its dialogue and the log tell. -/
theorem Adds.run {i : Issuer} (safe : i.generators.UrlSafe) {st : State}
    (kept : st.book.Kept i.plan) (stated : Stated st.book) {events : List Event}
    (scalar : ∀ r, .request r ∈ events → r.IsScalar) :
    Adds st.counters (i.run st events).counters (i.dialogue st events)
      (i.published st events) := by
  induction events generalizing st with
  | nil => exact .refl _
  | cons e events ih =>
    have hrest := ih (kept_after kept e) (stated.after kept e) fun r hr =>
      scalar r (List.mem_cons_of_mem e hr)
    cases e with
    | request r => exact (Adds.handle safe kept stated (scalar r List.mem_cons_self)).trans hrest
    | advance _ => exact hrest
    | trail _ => exact hrest
    | registry _ => exact hrest

namespace OneClient

theorem dialogue_journey : ∃ first second fourth fifth,
    issuer.dialogue (.initial 5 registry) journey = [(opening, first), (asking, second),
      (fetching, (issuer.handle fetching coded).1), (presenting, fourth), (presenting, fifth)] := by
  simp only [journey, dialogue, answered?, Option.toList_some, List.singleton_append, coded, opened]
  exact ⟨_, _, _, _, rfl⟩

theorem keepsPath_journey : ∀ r, .request r ∈ journey → issuer.KeepsPath r := by
  intro r hr
  simp only [journey, List.mem_cons, List.not_mem_nil, or_false, Event.request.injEq] at hr
  rcases hr with rfl | rfl | rfl | rfl | rfl <;> exact keepsPath_of_host rfl (by decide)

end OneClient

end Issuer

end Issuance
