import VideoProbe.Proofs.Redirects

/-!
# How an attempt at a delivery is judged

An attempt has one of three ends.  A job that cannot be delivered, because it is none of the
webhook jobs or because its arguments say nothing, is given up without a word to anybody.  Of all
others an attempt is done if the last answer of its chain of requests is one of success, and it is
put off in every other case: the endpoint refuses, sends the request on once too often or to a place
where no request can be sent, stays silent, or hangs up.

`execute_judged` is this, with no third way between the ends (`Judged`).  An attempt that is not
given up or cancelled sends the whole chain, which is settled by the replies (`ChainOf.unique`) and
is empty only where nobody can be reached or the address is none that a request can be sent to.
What the endpoint of any request gets is settled by the chain alone (`Trail.carries`): a request
that posts carries the payload as JSON, and every other request carries nothing.
-/

namespace VideoProbe

/-- The payload of a delivery tells a result or an error: one of the two members is there, and the
other is not. -/
theorem WebhookPayload.result_iff_no_error (args : WebhookArgs) :
    ((ofArgs args).toJson.get? "result").isSome = true ↔
      ((ofArgs args).toJson.get? "error").isSome = false := by
  rcases args with ⟨uri, _ | token, uuid, info | message⟩ <;>
    simp [ofArgs, toJson, Json.get?, Json.optionalMember, Outcome.result?, Outcome.error?,
      List.lookup_cons]

namespace Delivery

/-! ## Jobs -/

/-- The job can be delivered: it is a webhook job, and its arguments can be read. -/
def Deliverable (job : Job) (args : WebhookArgs) : Prop :=
  job.kind = .webhook ∧ WebhookArgs.decoder.ofValue job.args = .ok args

/-- Reading the arguments succeeds for these jobs. -/
theorem readArgs_ok_iff {job : Job} {args : WebhookArgs} :
    job.readArgs WebhookArgs.arguments = .ok args ↔ Deliverable job args :=
  Job.readArgs_ok_iff

/-- And it fails for all others. -/
theorem readArgs_error_iff {job : Job} :
    (∃ e, job.readArgs WebhookArgs.arguments = .error e) ↔
      job.kind ≠ .webhook ∨ ∃ refusal, WebhookArgs.decoder.ofValue job.args = .error refusal :=
  Job.readArgs_error_iff

/-! ## Answers -/

/-- The last request was answered, and with a status of success. -/
def AnsweredWell (hops : List Hop) : Prop :=
  ∃ last status location, hops.getLast? = some last ∧ last.reply = .answer status location ∧
    200 ≤ status ∧ status ≤ 299

/-- The same of the last arrival. -/
theorem answeredWell_iff {hops : List Hop} :
    AnsweredWell hops ↔ ∃ last, hops.getLast? = some last ∧ last.succeeds = true := by
  constructor
  · rintro ⟨last, status, location, hlast, hreply, hlow, hhigh⟩
    refine ⟨last, hlast, ?_⟩
    unfold Hop.succeeds
    rw [hreply]
    simp [isSuccess, hlow, hhigh]
  · rintro ⟨last, hlast, hs⟩
    unfold Hop.succeeds at hs
    cases hreply : last.reply with
    | answer status location =>
      rw [hreply] at hs
      have hrange : 200 ≤ status ∧ status ≤ 299 := by simpa [isSuccess] using hs
      exact ⟨last, status, location, hlast, hreply, hrange⟩
    | silence => simp [hreply] at hs
    | hangUp => simp [hreply] at hs

section

variable [Url.DomainRules]

/-! ## Chains -/

/-- A request posts the payload as JSON, or it only asks and carries nothing. -/
def Carries (payload : String) (r : Outgoing) : Prop :=
  (r.method = .post ∧ r.contentType = some "application/json" ∧ r.body = some payload) ∨
    (r.method = .get ∧ r.contentType = none ∧ r.body = none)

/-- Every request of a chain that begins with the payload carries it or carries nothing. -/
theorem Trail.carries {left : Nat} {url : Url} {payload : String} {hops : List Hop}
    {result : Except Fault Nat} (h : Trail left (.posting url payload) hops result) :
    ∀ hop ∈ hops, Carries payload hop.request := by
  intro hop hmem
  obtain ⟨before, after, hsplit⟩ := List.append_of_mem hmem
  have hrequest := h.request before hop after hsplit
  cases hany : before.any Hop.drops with
  | true =>
    rw [hany, if_pos rfl] at hrequest
    rw [hrequest]
    exact Or.inr ⟨rfl, rfl, rfl⟩
  | false =>
    rw [hany, if_neg Bool.false_ne_true] at hrequest
    rw [hrequest]
    exact Or.inl ⟨rfl, rfl, rfl⟩

/-- A chain has one request more than redirections are followed, at most. -/
theorem Trail.length_le {left : Nat} {r : Outgoing} {hops : List Hop} {result : Except Fault Nat}
    (h : Trail left r hops result) : hops.length ≤ left + 1 := by
  induction h with
  | followed hnext hweb ht ih => exact Nat.succ_le_succ ih
  | unanswered hreply => exact Nat.succ_le_succ (Nat.zero_le _)
  | answered hnone => exact Nat.succ_le_succ (Nat.zero_le _)
  | endless hnext => exact Nat.le_refl 1
  | astray hnext hweb => exact Nat.succ_le_succ (Nat.zero_le _)

/-- The chain of requests of a delivery.  There is none if nobody is to be reached or if the address
is none that a request can be sent to.  In all other cases it begins with the payload, which is
posted to the URL that the address is read as. -/
def ChainOf (p : Peer) (args : WebhookArgs) (hops : List Hop) : Prop :=
  (hops = [] ∧ (p.reachable = false ∨ ∀ url, ¬ Requestable args.uri url)) ∨
    (p.reachable = true ∧ ∃ url, Requestable args.uri url ∧
      ∃ result, Trail maxRedirects (.posting url.withoutUserinfo (payload args)) hops result)

/-- So has the chain of a delivery, which may be empty. -/
theorem ChainOf.length_le {p : Peer} {args : WebhookArgs} {hops : List Hop}
    (h : ChainOf p args hops) : hops.length ≤ maxRedirects + 1 := by
  rcases h with ⟨rfl, -⟩ | ⟨-, url, -, result, ht⟩
  · exact Nat.zero_le _
  · exact ht.length_le

/-- Every request of the chain of a delivery carries its payload or nothing. -/
theorem ChainOf.carries {p : Peer} {args : WebhookArgs} {hops : List Hop}
    (h : ChainOf p args hops) : ∀ hop ∈ hops, Carries (payload args) hop.request := by
  rcases h with ⟨rfl, -⟩ | ⟨-, url, -, result, ht⟩
  · simp
  · exact ht.carries

/-- **The replies settle the chain of a delivery**: of all chains there could be, only one fits what
the other side has to say. -/
theorem ChainOf.unique {p : Peer} {args : WebhookArgs} {hops hops' : List Hop}
    (h : ChainOf p args hops) (h' : ChainOf p args hops')
    (hreplies : hops.map Hop.reply = given p.replies hops.length)
    (hreplies' : hops'.map Hop.reply = given p.replies hops'.length) : hops = hops' := by
  have hsome : ∀ url, Requestable args.uri url → p.reachable = true →
      ¬ (p.reachable = false ∨ ∀ url, ¬ Requestable args.uri url) := by
    rintro url hurl hreachable (hunreachable | hnone)
    · simp [hreachable] at hunreachable
    · exact hnone url hurl
  rcases h with ⟨rfl, hnone⟩ | ⟨hreachable, url, hurl, result, ht⟩
  · rcases h' with ⟨rfl, -⟩ | ⟨hreachable, url, hurl, -⟩
    · rfl
    · exact absurd hnone (hsome url hurl hreachable)
  · rcases h' with ⟨-, hnone⟩ | ⟨-, url', hurl', result', ht'⟩
    · exact absurd hnone (hsome url hurl hreachable)
    · -- Sending runs along both, to the one URL that the address is read as.
      obtain rfl := Except.ok.inj (hurl.read.symm.trans hurl'.read)
      obtain ⟨p1, hsend, hh⟩ := send_of_trail ht hreachable hreplies
      obtain ⟨p2, hsend', hh'⟩ := send_of_trail ht' hreachable hreplies'
      obtain rfl := (Prod.mk.inj (hsend.symm.trans hsend')).2
      exact hh.unique hh'

/-- A delivery sends a chain of requests, and it is done if and only if the last of them was
answered with success. -/
theorem chain_of_deliver (args : WebhookArgs) (p : Peer) :
    ∃ hops, Hears p hops (deliver args p).2 ∧ ChainOf p args hops ∧
      ((deliver args p).1 = .ok () ↔ AnsweredWell hops) := by
  obtain ⟨hposted, hdone⟩ := deliver_spec args p
  obtain ⟨hops, hh, hcourse⟩ := trail_of_post args.uri (payload args) p
  refine ⟨hops, hposted ▸ hh, ?_, ?_⟩
  · rcases hcourse with ⟨hnone, hwhy, -⟩ | ⟨hreachable, url, hurl, ht⟩
    · exact Or.inl ⟨hnone, hwhy⟩
    · exact Or.inr ⟨hreachable, url, hurl, _, ht⟩
  · rw [hdone, answeredWell_iff]
    rcases hcourse with ⟨rfl, -, fault, hfault⟩ | ⟨-, url, -, ht⟩
    · simp [hfault]
    · exact ht.ok_iff

/-! ## Attempts -/

/-- An attempt with a job ends as `r` says and sends the requests of `hops`, where `p` is the other
side. -/
structure Judged (job : Job) (cancelled : Bool) (p : Peer) (r : HandlerResult) (hops : List Hop) :
    Prop where
  /-- It fails for good exactly if the job cannot be delivered. -/
  failed_iff : (∃ message, r = .failed message) ↔
    job.kind ≠ .webhook ∨ ∃ refusal, WebhookArgs.decoder.ofValue job.args = .error refusal
  failed_silently : (∃ message, r = .failed message) → hops = []
  cancelled_silently : cancelled = true → hops = []
  /-- It is done exactly if the last of its requests was answered with success. -/
  success_iff : r = .success none ↔
    (∃ args, Deliverable job args) ∧ cancelled = false ∧ AnsweredWell hops
  /-- In every other case there is to be another attempt. -/
  retry_iff : (∃ message, r = .retry message) ↔
    (∃ args, Deliverable job args) ∧ (cancelled = true ∨ ¬ AnsweredWell hops)
  /-- Any other attempt sends the whole chain of the delivery, no more and no less. -/
  chain : cancelled = false → ∀ args, Deliverable job args → ChainOf p args hops
  length_le : hops.length ≤ maxRedirects + 1
  /-- Whoever is posted to gets the payload as JSON, with a result or an error in it. -/
  posts : ∀ args, Deliverable job args → ∀ hop ∈ hops,
    Carries (WebhookPayload.ofArgs args).toJson.text hop.request
  payload : ∀ args, Deliverable job args →
    (((WebhookPayload.ofArgs args).toJson.get? "result").isSome = true ↔
      ((WebhookPayload.ofArgs args).toJson.get? "error").isSome = false)

/-- A job that cannot be delivered. -/
theorem judged_undeliverable {job : Job} {e : ServiceError}
    (hargs : job.readArgs WebhookArgs.arguments = .error e) (cancelled : Bool) (p : Peer)
    (message : String) : Judged job cancelled p (.failed message) [] := by
  have hno : ∀ args, ¬ Deliverable job args := by
    intro args h
    have hread := readArgs_ok_iff.2 h
    rw [hargs] at hread
    exact nomatch hread
  have hreason := readArgs_error_iff.1 ⟨e, hargs⟩
  constructor
  · simpa using hreason
  · exact fun _ => rfl
  · exact fun _ => rfl
  · simp [hno]
  · simp [hno]
  · exact fun _ args h => absurd h (hno args)
  · exact Nat.zero_le _
  · exact fun args h => absurd h (hno args)
  · exact fun args h => absurd h (hno args)

/-- A job that can be delivered: the attempt is cancelled before it sends anything, or it sends a
chain and ends as the last answer says. -/
theorem judged_deliverable {job : Job} {args : WebhookArgs} {cancelled : Bool} {p : Peer}
    {r : HandlerResult} {hops : List Hop}
    (hargs : job.readArgs WebhookArgs.arguments = .ok args)
    (hsent : (cancelled = true ∧ hops = []) ∨ (cancelled = false ∧ ChainOf p args hops))
    (hdone : r = .success none ↔ cancelled = false ∧ AnsweredWell hops)
    (hends : r = .success none ∨ ∃ message, r = .retry message) :
    Judged job cancelled p r hops := by
  have hjob := readArgs_ok_iff.1 hargs
  have hsome : ∃ args, Deliverable job args := ⟨args, hjob⟩
  -- The arguments of a job are read in one way only.
  have honly : ∀ args', Deliverable job args' → args' = args := by
    intro args' h
    have hread := readArgs_ok_iff.2 h
    rw [hargs] at hread
    exact (Except.ok.inj hread).symm
  have hlegible : ¬ (job.kind ≠ .webhook ∨
      ∃ refusal, WebhookArgs.decoder.ofValue job.args = .error refusal) := by
    rw [← readArgs_error_iff, hargs]
    simp
  have hunfailed : ¬ ∃ message, r = .failed message := by
    rintro ⟨message, rfl⟩
    simp at hends
  have hretry : (∃ message, r = .retry message) ↔ r ≠ .success none := by
    constructor
    · rintro ⟨message, rfl⟩
      simp
    · exact hends.resolve_left
  constructor
  · exact iff_of_false hunfailed hlegible
  · exact fun h => absurd h hunfailed
  · rintro rfl
    exact (hsent.resolve_right (by simp)).2
  · rw [hdone]
    simp [hsome]
  · rw [hretry, Ne, hdone, and_iff_right hsome]
    cases cancelled <;> simp
  · rintro rfl args' h
    rw [honly args' h]
    exact (hsent.resolve_left (by simp)).2
  · rcases hsent with ⟨-, rfl⟩ | ⟨-, hchain⟩
    · exact Nat.zero_le _
    · exact hchain.length_le
  · intro args' h
    rw [honly args' h]
    rcases hsent with ⟨-, rfl⟩ | ⟨-, hchain⟩
    · simp
    · exact hchain.carries
  · exact fun args' _ => WebhookPayload.result_iff_no_error args'

/-- **How an attempt is judged**, whatever the job is and however the endpoints reply. -/
theorem execute_judged (job : Job) (cancelled : Bool) (p : Peer) :
    ∃ hops, Hears p hops (execute job cancelled p).2 ∧
      Judged job cancelled p (execute job cancelled p).1 hops := by
  -- It is given up before it is asked whether the attempt is cancelled.
  cases hargs : job.readArgs WebhookArgs.arguments with
  | error e =>
    refine ⟨[], by simpa [execute, hargs] using hears_nothing p, ?_⟩
    simpa [execute, hargs] using judged_undeliverable hargs cancelled p _
  | ok args =>
    cases cancelled with
    | true =>
      refine ⟨[], by simpa [execute, hargs] using hears_nothing p,
        judged_deliverable hargs (Or.inl ⟨rfl, rfl⟩) ?_ ?_⟩
      · simp [execute, hargs]
      · simp [execute, hargs]
    | false =>
      obtain ⟨hsent, hcounts, -⟩ := execute_spec hargs p
      obtain ⟨hops, hh, hchain, hdone⟩ := chain_of_deliver args p
      refine ⟨hops, hsent ▸ hh, judged_deliverable hargs (Or.inr ⟨rfl, hchain⟩) ?_ ?_⟩
      · rw [hcounts, hdone]
        simp
      · unfold execute
        rw [hargs]
        dsimp only
        rw [if_neg Bool.false_ne_true]
        rcases deliver args p with ⟨reason | u, p'⟩
        · exact Or.inr ⟨reason, rfl⟩
        · exact Or.inl rfl

end

end Delivery

end VideoProbe
