import Issuance.Proofs.Service.Run

/-!
# Issuance.Proofs.Service.Url

**The path that a failure is counted by.** A request is routed by its path, but its failure is
counted by the path of its URL (`count_respond`), in which the Host header has a say. The two agree
for requests that keep their paths (`KeepsPath`). Where the framework takes the header as it
stands, these are the requests whose header has nothing in it that ends a host
(`keepsPath_of_host`), so all that come from a client that follows the standard.
-/

namespace Issuance

namespace Http

/-! ### What counts failures -/

/-- What counts failures, at whatever path. -/
def failureCounters : List Counter := [.sessionFailed, .authorizationFailed, .accessTokenFailed]

theorem mem_failureCounters {path : Text} {c : Counter} (h : failureCounter? path = some c) :
    c ∈ failureCounters := by
  obtain ⟨e, -, he⟩ := Option.bind_eq_some_iff.1 h
  cases e <;> cases he <;> decide

/-- What counts the failures of an endpoint counts at the path of that endpoint only. -/
theorem failureCounter?_eq_some_iff {path : Text} {e : Endpoint} {c : Counter}
    (h : e.failureCounter? = some c) : failureCounter? path = some c ↔ path = e.path := by
  constructor
  · intro hfound
    obtain ⟨e', he', hc⟩ := Option.bind_eq_some_iff.1 hfound
    have hsame : e' = e := by
      cases e <;> cases h <;> cases e' <;> first | rfl | cases hc
    rw [Endpoint.path_of_ofPath? he', hsame]
  · rintro rfl
    unfold failureCounter?
    rw [Endpoint.ofPath?_path]
    exact h

/-- An answer that tells of a failure. -/
def Response.IsFailure (answer : Response) : Prop := answer.status ∈ Failure.statuses

instance : DecidablePred Response.IsFailure := fun answer =>
  inferInstanceAs (Decidable (answer.status ∈ Failure.statuses))

/-! ### Paths in URLs -/

/-- A host that nothing ends before its end leaves the path of an endpoint as it is. -/
theorem urlPath_of_host {host? : Option Text} (host : (host?.getD []).any endsHost = false)
    (e : Endpoint) : urlPath host? e.path = e.path := by
  have hhost : ∀ c ∈ host?.getD [], (!endsHost c) = true := by simpa using host
  unfold urlPath
  rw [List.dropWhile_append_of_pos hhost]
  cases e <;> decide

-- what is no host leads a failure elsewhere
example : urlPath (some "localhost/x") "/token" = "/x/token" ∧
    urlPath (some "localhost/token?") "/session" = "/token" := by decide

end Http

namespace Issuer

open Http

/-- The URL that is made for a request to an endpoint has the path of the endpoint. -/
def KeepsPath (i : Issuer) (r : Request) : Prop := ∀ e, r.IsFor e → i.pathInUrl r = e.path

/-- A framework that takes the Host header as it stands keeps the path of every request whose
header is a host. -/
theorem keepsPath_of_host {i : Issuer} (standing : i.urlPath = Http.urlPath) {r : Request}
    (host : (r.host?.getD []).any endsHost = false) : KeepsPath i r := by
  intro e isFor
  unfold pathInUrl
  rw [standing, isFor.path, urlPath_of_host host]

/-! ### What an answer counts -/

/-- A failure is counted once, by what counts it at its path. -/
theorem count_countFailure (path : Text) (c : Counter) (st : State) :
    (countFailure path st).counters.count c =
      st.counters.count c + if failureCounter? path = some c then 1 else 0 := by
  unfold countFailure
  cases failureCounter? path with
  | none => rfl
  | some d => simp [State.count, Counters.count_bump, eq_comm]

/-- An answer has the status of a success, or it is that of a failure. -/
theorem status_respond (path : Text) (status : Nat) (result : Except Failure Json × State) :
    (respond path status result).1.status = status ∨ (respond path status result).1.IsFailure := by
  rcases result with ⟨f | v, st⟩
  · exact Or.inr f.status_mem
  · unfold respond
    dsimp only
    split
    · exact Or.inl rfl
    · exact Or.inr Failure.internal.status_mem

/-- An answer counts a failure by the path of the URL, and counts nothing else. -/
theorem count_respond {status : Nat} (success : status ∉ Failure.statuses) (path : Text)
    (c : Counter) (result : Except Failure Json × State) :
    (respond path status result).2.counters.count c = result.2.counters.count c +
      if (respond path status result).1.IsFailure ∧ failureCounter? path = some c then 1 else 0 := by
  have hfailure : ∀ (f : Failure) (st : State), (countFailure path st).counters.count c =
      st.counters.count c + if (⟨f.status, .json f.body⟩ : Response).IsFailure ∧
        failureCounter? path = some c then 1 else 0 := by
    intro f st
    have hf : (⟨f.status, .json f.body⟩ : Response).IsFailure := f.status_mem
    simp only [count_countFailure, hf, true_and]
  rcases result with ⟨f | v, st⟩
  · exact hfailure f st
  · unfold respond
    dsimp only
    split
    · have hok : ¬ (⟨status, .json (shown v)⟩ : Response).IsFailure := success
      simp only [hok, false_and, if_false, Nat.add_zero]
    · exact hfailure .internal st

/-- What counts no failure is not counted by an answer. -/
theorem count_respond_of_other {status : Nat} (success : status ∉ Failure.statuses) {c : Counter}
    (h : c ∉ failureCounters) (path : Text) (result : Except Failure Json × State) :
    (respond path status result).2.counters.count c = result.2.counters.count c := by
  rw [count_respond success, if_neg fun hc => h (mem_failureCounters hc.2), Nat.add_zero]

end Issuer

end Issuance
