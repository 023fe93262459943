import VideoProbe.Http.Router
import VideoProbe.Proofs.Accepting
import VideoProbe.Proofs.Admission

/-!
# What the interface admits

A request to admit a job passes the gates in a fixed order, and only what passes all of them reaches
the database.  `Valid` says what makes sense of a request in words of its own; the gates let through
exactly the bodies that are not too long, can be read, and make sense (`acceptBody_ok_iff`), and a
body that does not pass is refused with the status of the gate that stopped it
(`acceptBody_tooLong`, `acceptBody_error`).

Behind the gates the answer is that of the admission, whose law is known.  So the status tells how
the transaction went: *201* if and only if the commit succeeded, *409* if and only if the UUID is
taken, and *500* whatever else happened (`respond_gated`).
-/

namespace VideoProbe.Http

open VideoProbe.Database

/-! ## What makes sense -/

/-- A text is the address of a web resource: after one of two schemes come an authority with a host,
a path and a query. -/
def IsWebAddress (text : String) : Prop :=
  ∃ scheme rest, (scheme = "http" ∨ scheme = "https") ∧
    Uri.afterScheme? scheme (Text.Utf8.ofString text) = some rest ∧
    Uri.isHierarchy rest = true ∧ Uri.host (Uri.authorityOf rest) ≠ [] ∧
    (Text.Utf8.ofString text).length ≤ Uri.maxLength

/-- What a request says makes sense: its path is more than white space, and where it names a webhook
it gives the address of one. -/
structure Valid (q : InfoRequest) : Prop where
  path : ∃ c ∈ q.videoPath.toList, Text.isBlank c = false
  address : ∀ uri, q.webhookUri = some uri → IsWebAddress uri

/-- No text begins with both schemes. -/
theorem afterScheme?_https {bs rest : List UInt8} (h : Uri.afterScheme? "https" bs = some rest) :
    Uri.afterScheme? "http" bs = none := by
  unfold Uri.afterScheme? at h ⊢
  dsimp only at h ⊢
  split at h
  · rename_i hs
    refine if_neg fun hp => ?_
    -- The octet after the fourth is an `s` for the one scheme and a colon for the other.
    have h5 := congrArg (fun l : List UInt8 => l.take 5) hs
    have h5' := congrArg (fun l : List UInt8 => l.take 5) hp
    simp only [← List.map_take, List.take_take] at h5 h5'
    exact absurd (h5.symm.trans h5') (by decide)
  · exact nomatch h

/-- The check for an address tries one scheme after the other, and a text begins with one of them at
most. -/
theorem isWebhookAddress_iff (text : String) :
    isWebhookAddress text = true ↔ IsWebAddress text := by
  unfold isWebhookAddress Uri.isWebAddress IsWebAddress
  generalize Text.Utf8.ofString text = bs
  rw [Bool.and_eq_true, decide_eq_true_eq]
  constructor
  · rintro ⟨hlen, h⟩
    cases hhttp : Uri.afterScheme? "http" bs with
    | some rest =>
      rw [hhttp, Option.some_or] at h
      obtain ⟨hh, hhost⟩ : Uri.isHierarchy rest = true ∧ Uri.host (Uri.authorityOf rest) ≠ [] := by
        simpa using h
      exact ⟨"http", rest, Or.inl rfl, hhttp, hh, hhost, hlen⟩
    | none =>
      rw [hhttp, Option.none_or] at h
      cases hhttps : Uri.afterScheme? "https" bs with
      | some rest =>
        rw [hhttps] at h
        obtain ⟨hh, hhost⟩ : Uri.isHierarchy rest = true ∧
            Uri.host (Uri.authorityOf rest) ≠ [] := by
          simpa using h
        exact ⟨"https", rest, Or.inr rfl, hhttps, hh, hhost, hlen⟩
      | none =>
        rw [hhttps] at h
        exact nomatch h
  · -- What begins with the second scheme does not begin with the first one.
    rintro ⟨scheme, rest, rfl | rfl, hrest, hh, hhost, hlen⟩
    · rw [hrest]
      simpa using ⟨hlen, hh, hhost⟩
    · rw [afterScheme?_https hrest, hrest]
      simpa using ⟨hlen, hh, hhost⟩

/-! ## The gates -/

/-- The checks are passed exactly by the valid requests. -/
theorem validate_ok_iff (q : InfoRequest) : validate q = .ok () ↔ Valid q := by
  unfold validate
  have hpath : Text.isAllBlank q.videoPath = true ↔
      ¬ ∃ c ∈ q.videoPath.toList, Text.isBlank c = false := by
    simp [Text.isAllBlank, List.all_eq_true]
  by_cases hblank : Text.isAllBlank q.videoPath = true
  · rw [if_pos hblank]
    constructor
    · exact fun h => nomatch h
    · exact fun h => absurd h.path (hpath.1 hblank)
  · rw [if_neg hblank]
    have hvisible : ∃ c ∈ q.videoPath.toList, Text.isBlank c = false :=
      Classical.not_not.1 fun h => hblank (hpath.2 h)
    cases huri : q.webhookUri with
    | none =>
      refine ⟨fun _ => ⟨hvisible, fun uri h => ?_⟩, fun _ => rfl⟩
      rw [huri] at h
      exact nomatch h
    | some uri =>
      dsimp only
      constructor
      · intro h
        split at h
        · rename_i haddress
          refine ⟨hvisible, fun uri' huri' => ?_⟩
          rw [huri] at huri'
          cases huri'
          exact (isWebhookAddress_iff uri).1 haddress
        · exact nomatch h
      · exact fun h => if_pos ((isWebhookAddress_iff uri).2 (h.address uri huri))

/-- What makes no sense is a bad request. -/
theorem validate_error {q : InfoRequest} {e : ApiError} (h : validate q = .error e) :
    e.status = 400 := by
  unfold validate at h
  split at h
  · cases h
    rfl
  · split at h
    · exact nomatch h
    · split at h
      · exact nomatch h
      · cases h
        rfl

/-- White space is no request. -/
theorem not_blank_of_ofOctets {body : List UInt8} {q : InfoRequest}
    (h : InfoRequest.decoder.ofOctets body = .ok q) : body.all isBlankOctet = false := by
  have hread : ∃ x, InfoRequest.shape.decoder.read Json.nestingLimit (body.length + 1) body =
      .ok x := by
    unfold Json.Decoder.ofOctets at h
    split at h
    · exact nomatch h
    · rename_i a rest hread
      exact ⟨(a, rest), hread⟩
  obtain ⟨x, hx⟩ := hread
  obtain ⟨b, r, hb, hopens⟩ := Json.Shape.opens_of_read hx
  -- The octet that opens the request is none of white space.
  have hmem : b ∈ body := Json.mem_of_mem_skipBlank (hb ▸ List.mem_cons_self)
  have hvisible : isBlankOctet b = false := by
    rcases hopens with rfl | rfl <;> decide
  rw [List.all_eq_false]
  exact ⟨b, hmem, by simp [hvisible]⟩

/-- A body gets through to the checks of what it says if and only if it is not too long and is read
as a request. -/
theorem readBody_ok_iff (body : List UInt8) (q : InfoRequest) :
    readBody body = .ok q ↔
      body.length ≤ maxBodyLength ∧ InfoRequest.decoder.ofOctets body = .ok q := by
  have hoptional := Json.Shape.ofOctets_optional_iff InfoRequest.shape body q
  unfold readBody
  by_cases hlen : maxBodyLength < body.length
  · rw [if_pos hlen]
    constructor
    · exact fun h => nomatch h
    · exact fun h => absurd h.1 (Nat.not_le.2 hlen)
  · rw [if_neg hlen]
    refine Iff.trans ?_ (and_iff_right (Nat.not_lt.1 hlen)).symm
    -- A body of blanks alone has an answer of its own, and is read as no request either.
    by_cases hblank : body.all isBlankOctet = true
    · rw [if_pos hblank]
      constructor
      · exact fun h => nomatch h
      · intro h
        rw [not_blank_of_ofOctets h] at hblank
        exact nomatch hblank
    · rw [if_neg hblank]
      refine Iff.trans ?_ hoptional
      unfold InfoRequest.decoder
      rcases (Json.Decoder.optional InfoRequest.shape.decoder).ofOctets body with e | _ | q'
      · constructor <;> exact fun h => nomatch h
      · constructor <;> exact fun h => nomatch h
      · simp

/-- A body of the right length that is not read is an error of the client. -/
theorem readBody_error {body : List UInt8} {e : ApiError} (hlen : body.length ≤ maxBodyLength)
    (h : readBody body = .error e) : e.status = 400 := by
  unfold readBody at h
  rw [if_neg (Nat.not_lt.2 hlen)] at h
  split at h
  · cases h
    rfl
  · split at h <;> cases h <;> rfl

/-- **What gets through the gates.** -/
theorem acceptBody_ok_iff (body : List UInt8) (q : InfoRequest) :
    acceptBody body = .ok q ↔
      body.length ≤ maxBodyLength ∧ InfoRequest.decoder.ofOctets body = .ok q ∧ Valid q := by
  rw [← and_assoc, ← readBody_ok_iff, ← validate_ok_iff]
  unfold acceptBody
  cases hread : readBody body with
  | error e => simp [bind, Except.bind]
  | ok q' =>
    cases hvalid : validate q' with
    | error e =>
      simp only [bind, Except.bind, hvalid, reduceCtorEq, false_iff, not_and, Except.ok.injEq]
      rintro rfl h
      rw [hvalid] at h
      exact nomatch h
    | ok u =>
      simp only [bind, Except.bind, hvalid, pure, Except.pure, Except.ok.injEq]
      constructor
      · rintro rfl
        exact ⟨rfl, hvalid⟩
      · exact And.left

/-- What is not too long and does not get through is a bad request. -/
theorem acceptBody_error {body : List UInt8} {e : ApiError} (hlen : body.length ≤ maxBodyLength)
    (h : acceptBody body = .error e) : e.status = 400 := by
  unfold acceptBody at h
  cases hread : readBody body with
  | error e' =>
    rw [hread] at h
    cases h
    exact readBody_error hlen hread
  | ok q =>
    rw [hread] at h
    cases hvalid : validate q with
    | error e' =>
      simp only [bind, Except.bind, hvalid] at h
      cases h
      exact validate_error hvalid
    | ok u =>
      simp only [bind, Except.bind, hvalid] at h
      exact nomatch h

/-- A body that is too long is refused before it is looked at. -/
theorem acceptBody_tooLong {body : List UInt8} (hlen : maxBodyLength < body.length) :
    ∃ e, acceptBody body = .error e ∧ e.status = 413 := by
  refine ⟨.payloadTooLarge "Failed to buffer the request body: length limit exceeded", ?_, rfl⟩
  unfold acceptBody readBody
  rw [if_pos hlen]
  rfl

/-! ## Answers -/

/-- The response that a handler's result becomes. -/
def Response.ofResult : Except ApiError Response → Response
  | .ok response => response
  | .error e => e.response

/-- A request that a route has a method for is answered by its handler. -/
theorem run_respond {r : Request} {route : Route}
    (hroute : Route.ofPath? (pathOf r.target) = some route)
    (hmethod : route.hasMethod r.method = true) (s : Session) :
    (respond r).run s =
      (if r.method = .head then (Response.ofResult ((route.handle r).run.run s).1).withoutBody
        else Response.ofResult ((route.handle r).run.run s).1,
      ((route.handle r).run.run s).2) := by
  unfold respond
  simp only [hroute, hmethod, if_true]
  simp only [StateT.run, bind, StateT.bind, pure]
  rcases h : (route.handle r).run s with ⟨e | response, s'⟩ <;> rfl

/-- What becomes of work with the database whose result is answered with. -/
def answerWith (f : α → Response) : Except Failure α → Except ApiError Response
  | .ok a => .ok (f a)
  | .error e => .error (.ofFailure e)

/-- A handler runs its operation and makes a response of the result. -/
theorem run_handled (op : Operation α) (f : α → Response) (s : Session) :
    (handled op >>= fun a => pure (f a) : Handling Response).run.run s =
      (answerWith f (op.run s).1, (op.run s).2) := by
  rcases hop : op.run s with ⟨e | a, s'⟩
  · have hhandled : handled op s = (.error (.ofFailure e), s') := by
      simp only [handled, hop]
    simp only [ExceptT.run, StateT.run, bind, ExceptT.bind, ExceptT.mk, StateT.bind, hhandled]
    rfl
  · have hhandled : handled op s = (.ok a, s') := by
      simp only [handled, hop]
    simp only [ExceptT.run, StateT.run, bind, ExceptT.bind, ExceptT.mk, StateT.bind, hhandled]
    rfl

/-- What a client is told of an admission. -/
def ofAdmission : Except Failure InfoView → Except ApiError Response :=
  answerWith fun view => .json 201 view.toJson

/-- A body that is not accepted is answered before anything is sent. -/
theorem run_create_of_error {body : List UInt8} {e : ApiError} (h : acceptBody body = .error e)
    (s : Session) : (create body).run.run s = (.error e, s) := by
  unfold create
  rw [h]
  rfl

/-- One that is accepted is admitted, with the arguments it says. -/
theorem run_create_of_ok {body : List UInt8} {q : InfoRequest} (h : acceptBody body = .ok q)
    (s : Session) :
    (create body).run.run s =
      (ofAdmission ((Admission.submit q.toArgs).run s).1,
        ((Admission.submit q.toArgs).run s).2) := by
  unfold create
  rw [h]
  exact run_handled (Admission.submit q.toArgs) _ s

/-! ## The law -/

/-- What a client is told of an admission that sent `xs` and ended with `result`. -/
structure Told (uuid : Uuid) (result : Except Failure InfoView) (xs : List Exchange)
    (response : Response) : Prop where
  created_iff : response.status = 201 ↔ ∃ x ∈ xs, x.Succeeds .commit
  conflict_iff : response.status = 409 ↔ result = .error (.error (.duplicateUuid uuid))
  otherwise : response.status = 201 ∨ response.status = 409 ∨ response.status = 500

/-- What the interface does with the body of a request to admit a job: `s` is the session before,
`s'` the session after. -/
structure Gated (body : List UInt8) (s : Session) (response : Response) (s' : Session) : Prop where
  tooLong : maxBodyLength < body.length → response.status = 413 ∧ s' = s
  invalid : body.length ≤ maxBodyLength →
    (¬ ∃ q, InfoRequest.decoder.ofOctets body = .ok q ∧ Valid q) →
    response.status = 400 ∧ s' = s
  /-- Only a valid request is admitted, with what it says and nothing else. -/
  admitted : ∀ q args, body.length ≤ maxBodyLength → InfoRequest.decoder.ofOctets body = .ok q →
    Valid q → args = ⟨q.uuid, q.videoPath, q.webhookUri, q.webhookToken⟩ →
    ∃ result xs, (Admission.submit args).run s = (result, s') ∧ s'.log = s.log ++ xs ∧
      ((∀ x ∈ xs, x.Inserts (Admission.newJob args) → ∀ row, x.fate.row? = some row →
          Admission.Echoes (Admission.newJob args) row) →
        Told q.uuid result xs response)

/-- After the bracket of an admission comes no commit. -/
theorem commit_mem_append {args : InfoArgs} {result : Except Failure InfoView}
    {main rest : List Exchange} (h : Admission.Lawful args result main rest) :
    (∃ x ∈ main ++ rest, x.Succeeds .commit) ↔ ∃ x ∈ main, x.Succeeds .commit := by
  obtain ⟨id, inserted, jobId, hb⟩ := h.bracket
  have hrest : ∀ x ∈ rest, ¬ x.Succeeds .commit := by
    rcases hb.atMostOne with rfl | ⟨f, rfl⟩ <;> simp [Exchange.Succeeds]
  constructor
  · rintro ⟨x, hx, hs⟩
    rcases List.mem_append.1 hx with hx | hx
    · exact ⟨x, hx, hs⟩
    · exact absurd hs (hrest x hx)
  · rintro ⟨x, hx, hs⟩
    exact ⟨x, List.mem_append_left rest hx, hs⟩

/-- The status tells how a lawful admission went. -/
theorem told_of_lawful {args : InfoArgs} {result : Except Failure InfoView}
    {main rest : List Exchange} (h : Admission.Lawful args result main rest) :
    Told args.uuid result (main ++ rest) (Response.ofResult (ofAdmission result)) := by
  have hcommit : (∃ v, result = .ok v) ↔ ∃ x ∈ main ++ rest, x.Succeeds .commit :=
    h.ok_iff.trans (commit_mem_append h).symm
  rcases h.otherwise with ⟨v, rfl⟩ | rfl | ⟨e, rfl⟩ | rfl
  · have hstatus : (Response.ofResult (ofAdmission (.ok v))).status = 201 := rfl
    exact ⟨Iff.trans (by simp [hstatus]) hcommit, by simp [hstatus], Or.inl hstatus⟩
  · have hstatus : (Response.ofResult
        (ofAdmission (.error (.error (.duplicateUuid args.uuid))))).status = 409 := rfl
    exact ⟨Iff.trans (by simp [hstatus]) hcommit, by simp [hstatus], Or.inr (Or.inl hstatus)⟩
  · have hstatus : (Response.ofResult (ofAdmission (.error (.error (.database e))))).status =
        500 := rfl
    exact ⟨Iff.trans (by simp [hstatus]) hcommit, by simp [hstatus], Or.inr (Or.inr hstatus)⟩
  · have hstatus : (Response.ofResult (ofAdmission (.error .crash))).status = 500 := rfl
    exact ⟨Iff.trans (by simp [hstatus]) hcommit, by simp [hstatus], Or.inr (Or.inr hstatus)⟩

/-- **The interface admits exactly the valid requests.**  Whatever the body is and whatever the
database answers, as long as it gives back what it has inserted: what is too long or invalid is
refused and the database does not hear of it; anything else is admitted as it is, and the status of
the response tells how that went. -/
theorem respond_gated (r : Request) (s : Session) (hmethod : r.method = .post)
    (hroute : Route.ofPath? (pathOf r.target) = some .info) :
    Gated r.body s ((respond r).run s).1 ((respond r).run s).2 := by
  have hrun : (respond r).run s = (Response.ofResult ((create r.body).run.run s).1,
      ((create r.body).run.run s).2) := by
    have hhas : Route.info.hasMethod r.method = true := by simp [Route.hasMethod, hmethod]
    have hhead : r.method ≠ .head := by simp [hmethod]
    have h := run_respond hroute hhas s
    rw [if_neg hhead] at h
    exact h
  rw [hrun]
  -- The three ways of a body: too long, invalid, admitted.
  constructor
  · intro hlen
    obtain ⟨e, he, hstatus⟩ := acceptBody_tooLong hlen
    rw [run_create_of_error he]
    exact ⟨hstatus, rfl⟩
  · intro hlen hinvalid
    cases haccept : acceptBody r.body with
    | ok q => exact absurd ⟨q, ((acceptBody_ok_iff r.body q).1 haccept).2⟩ hinvalid
    | error e =>
      rw [run_create_of_error haccept]
      exact ⟨acceptBody_error hlen haccept, rfl⟩
  · rintro q args hlen hread hvalid rfl
    have haccept : acceptBody r.body = .ok q := (acceptBody_ok_iff r.body q).2 ⟨hlen, hread, hvalid⟩
    obtain ⟨result, main, rest, s', hsubmit, hlog, -, hlawful⟩ :=
      Admission.submit_lawful q.toArgs s
    rw [run_create_of_ok haccept, hsubmit]
    refine ⟨result, main ++ rest, hsubmit, hlog, fun hecho => ?_⟩
    exact told_of_lawful (hlawful fun x hx => hecho x (List.mem_append_left rest hx))

/-- A client asks to be told, and hands over a token of two bytes. -/
def asking : InfoRequest :=
  ⟨Uuid.ofCount 2, "/a.mp4", some "http://b/hook", some [0x68, 0x69]⟩

/-- The request to admit a job. -/
def posting (q : InfoRequest) : Request where
  method := .post
  target := "/info"
  body := Text.Utf8.ofString q.toJson.text

theorem decode_asking : InfoRequest.decoder.ofOctets (posting asking).body = .ok asking :=
  Except.ok_of_toOption (by decide +kernel)

theorem valid_asking : Valid asking :=
  (validate_ok_iff asking).1 (Except.ok_of_toOption (by decide +kernel))

/-- What its admission sends to a database that gives back what it is asked to store. -/
theorem log_submit_asking :
    ((Admission.submit asking.toArgs).run (Admission.granting asking.toArgs)).2.log =
      [⟨.begin, .answered ⟨[], 0⟩⟩,
        ⟨.selectMapping asking.uuid, .answered ⟨[], 0⟩⟩,
        ⟨.insertJob (Uuid.ofCount 1) (Admission.newJob asking.toArgs) ⟨0, 0⟩,
          .answered ⟨[rowOfInsert (Uuid.ofCount 1) (Admission.newJob asking.toArgs) ⟨0, 0⟩], 1⟩⟩,
        ⟨.insertMapping asking.uuid (Uuid.ofCount 1), .answered ⟨[], 1⟩⟩,
        ⟨.commit, .answered ⟨[], 0⟩⟩] :=
  rfl

/-- The request is answered with success. -/
theorem respond_gated_granted :
    ((respond (posting asking)).run (Admission.granting asking.toArgs)).1.status = 201 := by
  have hgated := respond_gated (posting asking) (Admission.granting asking.toArgs) rfl (by decide)
  obtain ⟨result, xs, hrun, hlog, htold⟩ := hgated.admitted asking asking.toArgs (by decide +kernel)
    decode_asking valid_asking rfl
  have hend : ((respond (posting asking)).run (Admission.granting asking.toArgs)).2 =
      ((Admission.submit asking.toArgs).run (Admission.granting asking.toArgs)).2 := by
    rw [hrun]
  have hempty : (Admission.granting asking.toArgs).log = [] := rfl
  rw [hend, log_submit_asking, hempty, List.nil_append] at hlog
  subst hlog
  refine (htold ?_).created_iff.2 ⟨⟨.commit, .answered ⟨[], 0⟩⟩, by simp, rfl, rfl⟩
  -- The insertion is the one statement that is given a row, and the row is what was inserted.
  simp only [List.forall_mem_cons, List.not_mem_nil, false_imp_iff, implies_true, and_true,
    Fate.row?, List.head?_nil, List.head?_cons, Option.some.injEq, forall_eq', reduceCtorEq]
  exact ⟨trivial, trivial, fun _ => Admission.echoes_rowOfInsert _ _ _⟩

end VideoProbe.Http
