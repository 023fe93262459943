import VideoProbe.Proofs.Gate
import VideoProbe.Proofs.Written

/-!
# What error responses say

Whatever goes wrong in a handler ends as one of six errors, and each of them is a status, a code for
programs and a message for people.  The body that is sent is read back as the code and the message,
whatever the message quotes from the request (`ErrorBody.ofOctets_text`); and the code tells the
status, but for two of them that share one (`codeFits`).

`respond_documented` says this of all requests.  The crux is that a handler that is done answers
with success (`status_of_handle`), so that an error response is always the response of an error.
Two things are not said, because they do not hold (`undocumented_responses`): a request by *HEAD* is
answered without the body, and a request that no handler is found for is no error of a handler.
-/

namespace VideoProbe.Http

open VideoProbe.Database

/-! ## Codes and bodies -/

/-- A code is the one that goes with a status. -/
structure CodeFits (status : Nat) (code : String) : Prop where
  invalid : code = "INVALID_REQUEST" ↔ status = 400 ∨ status = 413
  duplicate : code = "DUPLICATE_UUID" ↔ status = 409
  missing : code = "NOT_FOUND" ↔ status = 404
  failed : code = "INTERNAL_ERROR" ↔ status = 500
  unavailable : code = "SERVICE_UNAVAILABLE" ↔ status = 503

theorem codeFits (e : ApiError) : CodeFits e.status e.code := by
  cases e <;> constructor <;> simp [ApiError.code, ApiError.status]

/-- The statuses of errors. -/
def errorStatuses : List Nat :=
  [400, 404, 409, 413, 500, 503]

theorem status_mem (e : ApiError) : e.status ∈ errorStatuses := by
  cases e <;> simp [ApiError.status, errorStatuses]

/-- **The body of an error is read back** from what is written for it, whatever its message is. -/
theorem ErrorBody.ofOctets_text (b : ErrorBody) :
    ErrorBody.decoder.ofOctets (Text.Utf8.ofString b.toJson.text) = .ok b := by
  have hfills : Json.Fills ErrorBody.shape 0 [("code", .str b.code), ("message", .str b.message)]
      ErrorBody.shape.blank ⟨some b.code, some b.message⟩ :=
    (Json.fills_field rfl rfl (Json.Decoder.readsBack_spelled _ rfl) rfl).append
      (Json.fills_field rfl rfl (Json.Decoder.readsBack_spelled _ rfl) rfl)
  have hread : ErrorBody.decoder.ReadsBack 1 b.toJson b := Json.Shape.readsBack hfills rfl
  rw [Json.ofString_text]
  exact hread.ofOctets (by decide)

/-! ## Handlers -/

/-- Work with the database whose result is answered with is done if it ends with the result. -/
theorem ok_of_answerWith {f : α → Response} {x : Except Failure α} {response : Response}
    (h : answerWith f x = .ok response) : ∃ a, response = f a := by
  cases x with
  | error e => exact nomatch h
  | ok a =>
    cases h
    exact ⟨a, rfl⟩

/-- A handler that is done answers with success. -/
theorem status_of_handle {route : Route} {r : Request} {s : Session} {response : Response}
    (h : ((route.handle r).run.run s).1 = .ok response) :
    response.status = 200 ∨ response.status = 201 := by
  -- Each handler answers with success in one place, and with an error in all others.
  cases route with
  | info =>
    have hcreate : ((create r.body).run.run s).1 = .ok response := h
    cases haccept : acceptBody r.body with
    | error e =>
      rw [run_create_of_error haccept] at hcreate
      exact nomatch hcreate
    | ok q =>
      rw [run_create_of_ok haccept] at hcreate
      obtain ⟨view, rfl⟩ := ok_of_answerWith hcreate
      exact Or.inr rfl
  | infoStatus segment =>
    have hstatus : ((status segment).run.run s).1 = .ok response := h
    unfold status at hstatus
    split at hstatus
    · exact nomatch hstatus
    · rename_i u hu
      rw [run_handled] at hstatus
      obtain ⟨view, rfl⟩ := ok_of_answerWith hstatus
      exact Or.inl rfl
  | health =>
    have hhealth : (health s).1 = .ok response := h
    unfold health at hhealth
    split at hhealth
    · cases hhealth
      exact Or.inl rfl
    · exact nomatch hhealth
    · exact nomatch hhealth
  | document =>
    have hdescribe : (Except.ok describe : Except ApiError Response) = .ok response := h
    cases hdescribe
    exact Or.inl rfl

/-- An error response of a handler is the response of an error. -/
theorem error_of_handle {route : Route} {r : Request} {s : Session}
    (h : 400 ≤ (Response.ofResult ((route.handle r).run.run s).1).status) :
    ∃ e : ApiError, Response.ofResult ((route.handle r).run.run s).1 = e.response := by
  cases hresult : ((route.handle r).run.run s).1 with
  | error e => exact ⟨e, rfl⟩
  | ok response =>
    rw [hresult] at h
    have hstatus := status_of_handle hresult
    have h400 : 400 ≤ response.status := h
    omega

/-! ## The law -/

/-- What is said of the response to a request, if it is an error response. -/
structure Documented (r : Request) (s : Session) (response : Response) : Prop where
  /-- No other statuses occur; where a route is asked by a method that it does not have, the status
  says so. -/
  statuses : 400 ≤ response.status → response.status ∈ errorStatuses ∨
    (response.status = 405 ∧ ∃ route, Route.ofPath? (pathOf r.target) = some route ∧
      route.hasMethod r.method = false)
  /-- What a handler has to say is a body with the code that goes with the status. -/
  handled : ∀ route, Route.ofPath? (pathOf r.target) = some route →
    route.hasMethod r.method = true → 400 ≤ response.status →
    response.contentType = some "application/json" ∧ ∃ b, CodeFits response.status b.code ∧
      (r.method ≠ .head →
        ErrorBody.decoder.ofOctets (Text.Utf8.ofString response.body) = .ok b)
  /-- A request by *HEAD* is answered as one by *GET*, without the body. -/
  head : r.method = .head →
    response = ((respond { r with method := .get }).run s).1.withoutBody

/-- A path that no route has. -/
theorem run_respond_nowhere {r : Request} (hroute : Route.ofPath? (pathOf r.target) = none)
    (s : Session) : (respond r).run s = ({ status := 404 }, s) := by
  unfold respond
  rw [hroute]
  rfl

/-- A method that the route does not have. -/
theorem run_respond_notAllowed {r : Request} {route : Route}
    (hroute : Route.ofPath? (pathOf r.target) = some route)
    (hmethod : route.hasMethod r.method = false) (s : Session) :
    (respond r).run s = ({ status := 405, allow := some route.allowed }, s) := by
  unfold respond
  simp only [hroute, hmethod, Bool.false_eq_true, if_false]
  rfl

/-- A route has *HEAD* if and only if it has *GET*. -/
theorem hasMethod_head (route : Route) : route.hasMethod .head = route.hasMethod .get := by
  cases route <;> rfl

/-- A request by *HEAD* is answered as one by *GET*, without the body. -/
theorem respond_head {r : Request} (hhead : r.method = .head) (s : Session) :
    ((respond r).run s).1 = ((respond { r with method := .get }).run s).1.withoutBody := by
  cases hroute : Route.ofPath? (pathOf r.target) with
  | none =>
    have hget : Route.ofPath? (pathOf { r with method := .get }.target) = none := hroute
    rw [run_respond_nowhere hroute, run_respond_nowhere hget]
    rfl
  | some route =>
    have hget : Route.ofPath? (pathOf { r with method := .get }.target) = some route := hroute
    have hsame : { r with method := .get }.method = .get := rfl
    cases hmethod : route.hasMethod .get with
    | false =>
      rw [run_respond_notAllowed hroute (by rw [hhead, hasMethod_head, hmethod]),
        run_respond_notAllowed hget (by rw [hsame, hmethod])]
      rfl
    | true =>
      rw [run_respond hroute (by rw [hhead, hasMethod_head, hmethod]),
        run_respond hget (by rw [hsame, hmethod]), if_pos hhead, if_neg (by simp)]
      cases route <;> rfl

/-- **Error responses are documented.**  For every request and whatever the database answers: an
error response of a handler has a body with the code that goes with its status and with no other
one, but for a request by *HEAD*, which is answered without the body; and no error statuses occur
but those of errors, and that of a method which a route does not have. -/
theorem respond_documented (r : Request) (s : Session) :
    Documented r s ((respond r).run s).1 := by
  refine ⟨?_, ?_, fun hhead => respond_head hhead s⟩
  · intro hstatus
    cases hroute : Route.ofPath? (pathOf r.target) with
    | none =>
      rw [run_respond_nowhere hroute]
      exact Or.inl (by simp [errorStatuses])
    | some route =>
      cases hmethod : route.hasMethod r.method with
      | false =>
        rw [run_respond_notAllowed hroute hmethod]
        exact Or.inr ⟨rfl, route, rfl, hmethod⟩
      | true =>
        -- The status of the response is that of the handler, with its body or without.
        have hsame : ((respond r).run s).1.status =
            (Response.ofResult ((route.handle r).run.run s).1).status := by
          rw [run_respond hroute hmethod]
          split <;> rfl
        rw [hsame] at hstatus ⊢
        obtain ⟨e, he⟩ := error_of_handle hstatus
        rw [he]
        exact Or.inl (status_mem e)
  · intro route hroute hmethod hstatus
    rw [run_respond hroute hmethod] at hstatus ⊢
    have hsame : (Response.ofResult ((route.handle r).run.run s).1).status =
        (if r.method = .head then (Response.ofResult ((route.handle r).run.run s).1).withoutBody
          else Response.ofResult ((route.handle r).run.run s).1).status := by
      split <;> rfl
    obtain ⟨e, he⟩ := error_of_handle (hsame ▸ hstatus)
    rw [he]
    by_cases hhead : r.method = .head
    · rw [if_pos hhead]
      exact ⟨rfl, e.body, codeFits e, fun h => absurd hhead h⟩
    · rw [if_neg hhead]
      exact ⟨rfl, e.body, codeFits e, fun _ => ErrorBody.ofOctets_text e.body⟩

/-! ## What is not said -/

/-- **Some error responses have no such body**: that of a request by *HEAD*, and those of requests
that no handler is found for. -/
theorem undocumented_responses :
    ((respond { method := .head, target := "/info/x" }).run
        { link := .up, script := [], now := ⟨0, 0⟩ }).1 =
      { status := 400, contentType := some "application/json" } ∧
    ((respond { method := .get, target := "/nowhere" }).run
        { link := .up, script := [], now := ⟨0, 0⟩ }).1 = { status := 404 } ∧
    ((respond { method := .get, target := "/info" }).run
        { link := .up, script := [], now := ⟨0, 0⟩ }).1 =
      { status := 405, allow := some "POST" } ∧
    ∀ b, ErrorBody.decoder.ofOctets (Text.Utf8.ofString "") ≠ .ok b := by
  have hempty : ∀ b, ErrorBody.decoder.ofOctets (Text.Utf8.ofString "") ≠ .ok b :=
    fun b h => nomatch h
  refine ⟨?_, ?_, ?_, hempty⟩ <;> decide +kernel

end VideoProbe.Http
