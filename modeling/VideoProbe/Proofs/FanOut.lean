import VideoProbe.Extraction
import VideoProbe.Proofs.Bracket
import VideoProbe.Proofs.Queue

/-!
# The outcome of an extraction and its delivery

A client that wants to be told gets a delivery job if and only if the attempt that found the
outcome is recorded as complete.  `FanOut` says what that means for the statements of a handler:
whatever the database answers, the delivery job and the completion are in one bracket, it is
committed only if both went well, and what the handler reports is what happened.

The proof follows the handler.  `BodyCourse` lists the ways in which the body of the transaction may
go, `talks_transaction` adds how it may be closed, and each of the combinations is looked at once.
-/

namespace VideoProbe

open VideoProbe.Database

namespace Extraction

/-- The statements of a transaction that stores an outcome together with its delivery: one
insertion, one completion of this very attempt, and a closing statement. -/
def plan (job : Job) (webhook : NewJob) (output : Json) (id : Uuid) (inserted completed : Instant)
    (closing : Statement) : List Statement :=
  [.begin, .insertJob id webhook inserted, .completeJob completed (some output) job.id job.attempt,
    closing]

/-- The exchanges of a handler that records an outcome together with its delivery: `main` follows
the plan of the transaction, `rest` is what comes after, and `r` is what the handler reports. -/
structure FanOut (job : Job) (webhook : NewJob) (output : Json)
    (r : Except Failure HandlerResult) (main rest : List Exchange) : Prop where
  /-- One insertion and one completion at most, inside one bracket. -/
  bracket : ∃ id inserted completed closing, (closing = .commit ∨ closing = .rollback) ∧
    Bracket (plan job webhook output id inserted completed closing) main rest
  commits_only : (∃ x ∈ main, x.statement = .commit) →
    (∃ x ∈ main, x.Inserts webhook ∧ ∃ row j, x.fate.row? = some row ∧ jobOfRow row = .ok j) ∧
      ∃ x ∈ main, x.Completes job.id job.attempt (some output) ∧ x.fate.count? = some 1
  finalized_iff : r = .ok .finalized ↔ ∃ x ∈ main, x.Succeeds .commit
  superseded_iff : r = .ok .superseded ↔
    (∃ x ∈ main, x.Completes job.id job.attempt (some output) ∧
      ∃ n, x.fate.count? = some n ∧ n ≠ 1) ∧
    ∃ x ∈ main, x.Succeeds .rollback
  /-- In every other case the attempt is to be repeated, unless the row of the insertion breaks the
  schema. -/
  otherwise : r = .ok .finalized ∨ r = .ok .superseded ∨ (∃ m, r = .ok (.retry m)) ∨
    r = .error .crash
  crash_iff : r = .error .crash ↔
    ∃ x ∈ main, x.Inserts webhook ∧ ∃ row, x.fate.row? = some row ∧ jobOfRow row = .error .crash

/-! ## The body of the transaction -/

/-- How the body of the transaction may go. -/
inductive BodyCourse (job : Job) (webhook : NewJob) (output : Json) :
    Except Failure (Closing Bool) → List Exchange → Prop
  | notInserted {id : Uuid} {t : Instant} {f : Fate} {e : Failure} (h : f.job = .error e)
      (hsent : ∀ e, f ≠ .unsent e) :
      BodyCourse job webhook output (.error e) [⟨.insertJob id webhook t, f⟩]
  | notCompleted {id : Uuid} {t t' : Instant} {f g : Fate} {j : Job} {e : DatabaseError}
      (h : f.job = .ok j) (hg : g.answer = .error e) (hsent : ∀ e, g ≠ .unsent e) :
      BodyCourse job webhook output (.error (.error (.database e)))
        [⟨.insertJob id webhook t, f⟩, ⟨.completeJob t' (some output) job.id job.attempt, g⟩]
  | owned {id : Uuid} {t t' : Instant} {f : Fate} {a : Answer} {j : Job}
      (h : f.job = .ok j) (hone : a.affected = 1) :
      BodyCourse job webhook output (.ok (.commit true))
        [⟨.insertJob id webhook t, f⟩,
          ⟨.completeJob t' (some output) job.id job.attempt, .answered a⟩]
  | disowned {id : Uuid} {t t' : Instant} {f : Fate} {a : Answer} {j : Job}
      (h : f.job = .ok j) (hone : a.affected ≠ 1) :
      BodyCourse job webhook output (.ok (.rollback false))
        [⟨.insertJob id webhook t, f⟩,
          ⟨.completeJob t' (some output) job.id job.attempt, .answered a⟩]

/-- Recording takes one of four courses: the insertion fails, the completion fails, or both go well
and the attempt still owns its job or does not. -/
theorem talks_recordWithin (job : Job) (webhook : NewJob) (output : Json) (s : Session)
    (hc : s.connected = true) :
    ∃ r ys s', Talks (recordWithin job webhook output) s r ys s' ∧
      BodyCourse job webhook output r ys := by
  obtain ⟨id, t, f, s1, hf, hfsent⟩ := Queue.talks_insertWithin s webhook
  cases hj : f.job with
  | error e =>
    rw [hj] at hf
    exact ⟨_, _, s1, hf.bind_error, .notInserted hj (hfsent hc)⟩
  | ok j =>
    rw [hj] at hf
    -- The insertion was answered, so there is a connection and the completion is sent.
    have hc1 := hf.connected_of_answered (Fate.row_of_job hj).1
    obtain ⟨t', g, s2, hg, hgsent⟩ :=
      Queue.talks_completeWithin s1 job.id job.attempt (some output)
    have hrest := hg.inspect
      (k := fun owned => (if owned then return .commit true else return .rollback false :
        Operation (Closing Bool)))
      (g := fun owned => .ok (if owned then .commit true else .rollback false))
      (fun owned _ => by cases owned <;> rfl)
    have hbody : Talks (recordWithin job webhook output) s _ _ s2 :=
      hf.bind (f := fun _ => Queue.completeWithin job.id job.attempt (some output) >>= _) hrest
    rcases g.answer_cases with ⟨a, rfl⟩ | ⟨e, he, -⟩
    · by_cases hone : a.affected = 1
      · refine ⟨_, _, s2, hbody, ?_⟩
        simp only [Fate.result, Fate.answer, Except.map, Except.bind, hone, decide_true, if_true]
        exact .owned hj hone
      · refine ⟨_, _, s2, hbody, ?_⟩
        simp only [Fate.result, Fate.answer, Except.map, Except.bind, hone, decide_false,
          Bool.false_eq_true, if_false]
        exact .disowned hj hone
    · refine ⟨_, _, s2, hbody, ?_⟩
      rw [Fate.result_of_error he]
      exact .notCompleted hj he (hgsent hc1)

/-! ## The bracket of the transaction -/

section FanOut

variable {job : Job} {webhook : NewJob} {output : Json} {main rest : List Exchange}

/-- The attempt is to be repeated wherever no closing statement went well and no row was bad. -/
theorem FanOut.of_retry {m : String}
    (hb : ∃ id inserted completed closing, (closing = .commit ∨ closing = .rollback) ∧
      Bracket (plan job webhook output id inserted completed closing) main rest)
    (hcommit : (∃ x ∈ main, x.statement = .commit) →
      (∃ x ∈ main, x.Inserts webhook ∧ ∃ row j, x.fate.row? = some row ∧ jobOfRow row = .ok j) ∧
        ∃ x ∈ main, x.Completes job.id job.attempt (some output) ∧ x.fate.count? = some 1)
    (hclosed : ∀ x ∈ main, ¬ x.Succeeds .commit ∧ ¬ x.Succeeds .rollback)
    (hrow : ∀ x ∈ main, x.Inserts webhook → ∀ row, x.fate.row? = some row →
      jobOfRow row ≠ .error .crash) :
    FanOut job webhook output (.ok (.retry m)) main rest where
  bracket := hb
  commits_only := hcommit
  -- Either report needs a closing statement that went well, and there is none.
  finalized_iff := by
    refine ⟨fun h => by simp at h, ?_⟩
    rintro ⟨x, hx, hs⟩
    exact absurd hs (hclosed x hx).1
  superseded_iff := by
    refine ⟨fun h => by simp at h, ?_⟩
    rintro ⟨-, x, hx, hs⟩
    exact absurd hs (hclosed x hx).2
  otherwise := Or.inr (Or.inr (Or.inl ⟨m, rfl⟩))
  crash_iff := by
    refine ⟨fun h => by simp at h, ?_⟩
    rintro ⟨x, hx, hi, row, hr, hc⟩
    exact absurd hc (hrow x hx hi row hr)

/-- The transaction could not be opened. -/
theorem fanOut_unopened {f : Fate} {e : DatabaseError} (h : f.answer = .error e) :
    FanOut job webhook output (settle (.error (.error (.database e)))) [⟨.begin, f⟩] [] := by
  refine FanOut.of_retry (m := "Failed to record outcome: " ++ (ServiceError.database e).message)
    ⟨Uuid.ofCount 0, ⟨0, 0⟩, ⟨0, 0⟩, .commit, Or.inl rfl, ?_⟩ ?_ ?_ ?_
  · exact Bracket.of_unopened h (by simp [plan])
  all_goals simp [Exchange.Succeeds, Exchange.Inserts]

variable {id : Uuid} {inserted completed : Instant} {a b : Answer} {f g : Fate} {j : Job}

/-- The transaction is open when the delivery is there. -/
theorem open_inserted (hf : f.isAnswered = true) :
    Open [⟨.begin, .answered a⟩, ⟨.insertJob id webhook inserted, f⟩] :=
  (Open.singleton a).concat (x := ⟨.insertJob id webhook inserted, f⟩) hf (by simp) (by simp)

/-- And when the job has been completed. -/
theorem open_completed (hf : f.isAnswered = true) (hg : g.isAnswered = true) :
    Open [⟨.begin, .answered a⟩, ⟨.insertJob id webhook inserted, f⟩,
      ⟨.completeJob completed (some output) job.id job.attempt, g⟩] :=
  (open_inserted hf).concat
    (x := ⟨.completeJob completed (some output) job.id job.attempt, g⟩) hg (by simp) (by simp)

/-- The insertion gave no job. -/
theorem fanOut_notInserted {e : Failure} (h : f.job = .error e) (hsent : ∀ e, f ≠ .unsent e)
    (hz : GivenUp f.keepsConnection rest) :
    FanOut job webhook output (settle (.error e))
      [⟨.begin, .answered a⟩, ⟨.insertJob id webhook inserted, f⟩] rest := by
  have hb : Bracket (plan job webhook output id inserted ⟨0, 0⟩ .commit)
      [⟨.begin, .answered a⟩, ⟨.insertJob id webhook inserted, f⟩] rest :=
    (Open.singleton a).bracket_of_sent (by simp [plan]) (by simp) (by simp) hsent hz
  cases e with
  | error e =>
    have hsafe : ¬ ∃ row, f.row? = some row ∧ jobOfRow row = .error .crash := by
      rw [← Fate.job_crash_iff, h]
      simp
    refine FanOut.of_retry (m := "Failed to record outcome: " ++ e.message)
      ⟨id, inserted, _, _, Or.inl rfl, hb⟩ (by simp) (by simp [Exchange.Succeeds]) ?_
    simpa [Exchange.Inserts] using hsafe
  | crash =>
    -- The row of the insertion breaks the schema, and the handler does not come to an end.
    have hbad := (Fate.job_crash_iff f).1 h
    exact {
      bracket := ⟨id, inserted, _, _, Or.inl rfl, hb⟩
      commits_only := by simp
      finalized_iff := by simp [settle, Exchange.Succeeds]
      superseded_iff := by simp [settle, Exchange.Succeeds]
      otherwise := by simp [settle]
      crash_iff := by simpa [settle, Exchange.Inserts] using hbad }

/-- The completion was not answered. -/
theorem fanOut_notCompleted {e : DatabaseError} (h : f.job = .ok j) (hg : g.answer = .error e)
    (hsent : ∀ e, g ≠ .unsent e) (hz : GivenUp g.keepsConnection rest) :
    FanOut job webhook output (settle (.error (.error (.database e))))
      [⟨.begin, .answered a⟩, ⟨.insertJob id webhook inserted, f⟩,
        ⟨.completeJob completed (some output) job.id job.attempt, g⟩] rest := by
  refine FanOut.of_retry (m := "Failed to record outcome: " ++ (ServiceError.database e).message)
    ⟨id, inserted, completed, .commit, Or.inl rfl, ?_⟩ (by simp) (by simp [Exchange.Succeeds]) ?_
  · exact (open_inserted (Fate.row_of_job h).1).bracket_of_error (by simp [plan]) hg hsent hz
  · simpa [Exchange.Inserts] using Fate.safe_of_job h

/-- Both statements were answered, and a closing statement was sent. -/
theorem bracket_closed {st : Statement} {r : Except Failure Unit} {zs : List Exchange}
    (hst : st = .commit ∨ st = .rollback) (hf : f.isAnswered = true)
    (hz : ClosedBy st true r zs) :
    ∃ k rest, zs = ⟨st, k⟩ :: rest ∧
      Bracket (plan job webhook output id inserted completed st)
        [⟨.begin, .answered a⟩, ⟨.insertJob id webhook inserted, f⟩,
          ⟨.completeJob completed (some output) job.id job.attempt, .answered b⟩, ⟨st, k⟩]
        rest ∧
      (r = .ok () ↔ k.isAnswered = true) ∧
      ∀ e, r = .error e → ∃ c, e = .error (.database c) := by
  have hopen : Open [⟨.begin, .answered a⟩, ⟨.insertJob id webhook inserted, f⟩,
      ⟨.completeJob completed (some output) job.id job.attempt, .answered b⟩] :=
    open_completed hf rfl
  exact hz.bracket hopen hst (by simp [plan])

/-- The attempt still owned the job, and a commit was sent. -/
theorem fanOut_owned {r : Except Failure Unit} {k : Fate} (h : f.job = .ok j)
    (hone : b.affected = 1) (hr : r = .ok () ↔ k.isAnswered = true)
    (hfails : ∀ e, r = .error e → ∃ c, e = .error (.database c))
    (hb : Bracket (plan job webhook output id inserted completed .commit)
      [⟨.begin, .answered a⟩, ⟨.insertJob id webhook inserted, f⟩,
        ⟨.completeJob completed (some output) job.id job.attempt, .answered b⟩, ⟨.commit, k⟩]
      rest) :
    FanOut job webhook output (settle (r.map fun _ => true))
      [⟨.begin, .answered a⟩, ⟨.insertJob id webhook inserted, f⟩,
        ⟨.completeJob completed (some output) job.id job.attempt, .answered b⟩, ⟨.commit, k⟩]
      rest := by
  obtain ⟨-, row, hrow, hj⟩ := Fate.row_of_job h
  have hcommits : (∃ row j, f.row? = some row ∧ jobOfRow row = .ok j) ∧
      Fate.count? (.answered b) = some 1 := ⟨⟨row, j, hrow, hj⟩, congrArg some hone⟩
  -- The closing statement decides: the outcome is recorded, or the attempt is to be repeated.
  cases r with
  | ok u =>
    have hk : k.isAnswered = true := hr.1 rfl
    exact {
      bracket := ⟨id, inserted, completed, .commit, Or.inl rfl, hb⟩
      commits_only := fun _ => by simpa [Exchange.Inserts, Exchange.Completes] using hcommits
      finalized_iff := by simp [settle, Except.map, Exchange.Succeeds, hk]
      superseded_iff := by simp [settle, Except.map, Exchange.Succeeds]
      otherwise := Or.inl rfl
      crash_iff := by
        simpa [settle, Except.map, Exchange.Inserts] using Fate.safe_of_job h }
  | error e =>
    obtain ⟨c, rfl⟩ := hfails e rfl
    have hk : k.isAnswered = false := by simpa using hr
    refine FanOut.of_retry (m := "Failed to record outcome: " ++ (ServiceError.database c).message)
      ⟨id, inserted, completed, .commit, Or.inl rfl, hb⟩ ?_ ?_ ?_
    · exact fun _ => by simpa [Exchange.Inserts, Exchange.Completes] using hcommits
    · simp [Exchange.Succeeds, hk]
    · simpa [Exchange.Inserts] using Fate.safe_of_job h

/-- The job had been taken away from the attempt, and a rollback was sent. -/
theorem fanOut_disowned {r : Except Failure Unit} {k : Fate} (h : f.job = .ok j)
    (hone : b.affected ≠ 1) (hr : r = .ok () ↔ k.isAnswered = true)
    (hfails : ∀ e, r = .error e → ∃ c, e = .error (.database c))
    (hb : Bracket (plan job webhook output id inserted completed .rollback)
      [⟨.begin, .answered a⟩, ⟨.insertJob id webhook inserted, f⟩,
        ⟨.completeJob completed (some output) job.id job.attempt, .answered b⟩, ⟨.rollback, k⟩]
      rest) :
    FanOut job webhook output (settle (r.map fun _ => false))
      [⟨.begin, .answered a⟩, ⟨.insertJob id webhook inserted, f⟩,
        ⟨.completeJob completed (some output) job.id job.attempt, .answered b⟩, ⟨.rollback, k⟩]
      rest := by
  have hcount : ∃ n, Fate.count? (.answered b) = some n ∧ n ≠ 1 := ⟨_, rfl, hone⟩
  -- Here the closing statement is the rollback, and nothing is recorded either way.
  cases r with
  | ok u =>
    have hk : k.isAnswered = true := hr.1 rfl
    exact {
      bracket := ⟨id, inserted, completed, .rollback, Or.inr rfl, hb⟩
      commits_only := by simp
      finalized_iff := by simp [settle, Except.map, Exchange.Succeeds]
      superseded_iff := by
        simpa [settle, Except.map, Exchange.Succeeds, Exchange.Completes, hk] using hcount
      otherwise := Or.inr (Or.inl rfl)
      crash_iff := by
        simpa [settle, Except.map, Exchange.Inserts] using Fate.safe_of_job h }
  | error e =>
    obtain ⟨c, rfl⟩ := hfails e rfl
    have hk : k.isAnswered = false := by simpa using hr
    refine FanOut.of_retry (m := "Failed to record outcome: " ++ (ServiceError.database c).message)
      ⟨id, inserted, completed, .rollback, Or.inr rfl, hb⟩ (by simp) ?_ ?_
    · simp [Exchange.Succeeds, hk]
    · simpa [Exchange.Inserts] using Fate.safe_of_job h

end FanOut

/-- **The transaction of a handler**, from any session and for any replies. -/
theorem talks_recorded (job : Job) (webhook : NewJob) (output : Json) (s : Session) :
    ∃ q main rest s', Talks (transaction (recordWithin job webhook output)) s q (main ++ rest) s' ∧
      FanOut job webhook output (settle q) main rest := by
  rcases talks_transaction (talks_recordWithin job webhook output) s with
    ⟨f, e, s', hf, ht⟩ | ⟨a, r, ys, zs, q, s', hbody, hcloses, ht⟩
  · exact ⟨_, _, [], s', ht, fanOut_unopened hf⟩
  · -- How the body went decides how the transaction can be closed: one case for each way.
    cases hbody with
    | notInserted h hsent =>
      cases hcloses with
      | abandoned hz => exact ⟨_, _, zs, s', ht, fanOut_notInserted h hsent hz⟩
    | notCompleted h hg hsent =>
      cases hcloses with
      | abandoned hz => exact ⟨_, _, zs, s', ht, fanOut_notCompleted h hg hsent hz⟩
    | owned h hone =>
      cases hcloses with
      | committed hz =>
        obtain ⟨k, rest, rfl, hb, hr, hfails⟩ :=
          bracket_closed (Or.inl rfl) (Fate.row_of_job h).1 hz
        exact ⟨_, _, rest, s', ht, fanOut_owned h hone hr hfails hb⟩
    | disowned h hone =>
      cases hcloses with
      | rolledBack hz =>
        obtain ⟨k, rest, rfl, hb, hr, hfails⟩ :=
          bracket_closed (Or.inr rfl) (Fate.row_of_job h).1 hz
        exact ⟨_, _, rest, s', ht, fanOut_disowned h hone hr hfails hb⟩

/-! ## The handler -/

/-- What a handler may do with a job: `r` is what it reports, and `xs` is what it hands over. -/
structure Lawful (probe : String → Except ProbeError VideoInfo) (job : Job)
    (r : Except Failure HandlerResult) (xs : List Exchange) : Prop where
  undecodable : ∀ e, job.readArgs InfoArgs.arguments = .error e →
    xs = [] ∧ r = .ok (.failed ("Invalid info job arguments: " ++ e.message))
  cancelled : ∀ args, job.readArgs InfoArgs.arguments = .ok args →
    probe args.path = .error .cancelled →
    xs = [] ∧ r = .ok (.retry "Probe cancelled by worker shutdown")
  untold : ∀ args, job.readArgs InfoArgs.arguments = .ok args →
    probe args.path ≠ .error .cancelled → args.webhookUri = none →
    xs = [] ∧ ∃ outcome, outcome? (probe args.path) = some outcome ∧
      r = .ok (.success (some outcome.toJson.sorted))
  told : ∀ args uri, job.readArgs InfoArgs.arguments = .ok args →
    probe args.path ≠ .error .cancelled → args.webhookUri = some uri →
    ∃ outcome main rest, outcome? (probe args.path) = some outcome ∧ xs = main ++ rest ∧
      FanOut job (webhookJob uri args outcome) outcome.toJson.sorted r main rest

/-- Only a cancelled probe has no outcome. -/
theorem outcome?_eq_none_iff (p : Except ProbeError VideoInfo) :
    outcome? p = none ↔ p = .error .cancelled := by
  unfold outcome?
  split <;> simp_all

/-- The attempt reports that it has recorded the outcome exactly if it was committed with a count of
one. -/
theorem settle_eq_finalized_iff {q : Except Failure Bool} :
    settle q = .ok .finalized ↔ q = .ok true := by
  unfold settle
  split <;> simp

/-- The workers are woken if and only if the transaction was committed. -/
theorem run_completeWithWebhook (job : Job) (uri : String) (args : InfoArgs) (outcome : Outcome)
    (s : Session) :
    ∃ q main rest s', (completeWithWebhook job uri args outcome).run s = (q, s') ∧
      s'.log = s.log ++ (main ++ rest) ∧
      (s'.woke = true ↔ s.woke = true ∨ q = .ok true) ∧
      FanOut job (webhookJob uri args outcome) outcome.toJson.sorted (settle q) main rest := by
  obtain ⟨q, main, rest, s', ht, hfan⟩ :=
    talks_recorded job (webhookJob uri args outcome) outcome.toJson.sorted s
  have hrun := run_bind s
    (transaction (recordWithin job (webhookJob uri args outcome) outcome.toJson.sorted))
    (fun stored => do
      if stored then wakeWorkers
      return stored)
  rw [ht.run] at hrun
  rcases q with e | ⟨_ | _⟩
  · exact ⟨_, main, rest, s', hrun, ht.log, by simp [ht.woke], hfan⟩
  · exact ⟨_, main, rest, s', hrun, ht.log, by simp [ht.woke], hfan⟩
  · exact ⟨_, main, rest, { s' with woke := true }, hrun, ht.log, by simp, hfan⟩

section Execute

variable {probe : String → Except ProbeError VideoInfo} {job : Job} {args : InfoArgs}
  {outcome : Outcome}

/-- An outcome that nobody wants to be told is handed back to the worker. -/
theorem run_execute_untold (hargs : job.readArgs InfoArgs.arguments = .ok args)
    (hout : outcome? (probe args.path) = some outcome) (huri : args.webhookUri = none)
    (s : Session) :
    (execute probe job).run s = (.ok (.success (some outcome.toJson.sorted)), s) := by
  simp only [execute, hargs, hout, huri, run_pure]

/-- An outcome that a client wants to be told is stored together with its delivery. -/
theorem run_execute_told {uri : String} (hargs : job.readArgs InfoArgs.arguments = .ok args)
    (hout : outcome? (probe args.path) = some outcome) (huri : args.webhookUri = some uri)
    (s : Session) :
    ∃ r main rest s', (execute probe job).run s = (r, s') ∧ s'.log = s.log ++ (main ++ rest) ∧
      (s'.woke = true ↔ s.woke = true ∨ r = .ok .finalized) ∧
      FanOut job (webhookJob uri args outcome) outcome.toJson.sorted r main rest := by
  obtain ⟨q, main, rest, s', hrun, hlog, hwoke, hfan⟩ :=
    run_completeWithWebhook job uri args outcome s
  refine ⟨settle q, main, rest, s', ?_, hlog, ?_, hfan⟩
  · -- The failure of the transaction is a value here, so that it can be settled.
    simp only [execute, hargs, hout, huri, run_bind, run_attempted, hrun]
    cases settle q <;> rfl
  · rw [settle_eq_finalized_iff]
    exact hwoke

end Execute

/-- **Completion and delivery are atomic.**  Whatever the probe says and whatever the database
answers, a handler keeps to the law, and it wakes the workers if and only if it reports that it
has recorded the outcome itself. -/
theorem execute_lawful (probe : String → Except ProbeError VideoInfo) (job : Job) (s : Session) :
    ∃ r xs s', (execute probe job).run s = (r, s') ∧ s'.log = s.log ++ xs ∧
      (s'.woke = true ↔ s.woke = true ∨ r = .ok .finalized) ∧ Lawful probe job r xs := by
  -- The four paths in the order in which the handler tells them apart.
  cases hargs : job.readArgs InfoArgs.arguments with
  | error e =>
    refine ⟨.ok (.failed ("Invalid info job arguments: " ++ e.message)), [], s, ?_, by simp,
      by simp, ?_⟩
    · simp only [execute, hargs, run_pure]
    · constructor <;> simp [hargs]
  | ok args =>
    cases hout : outcome? (probe args.path) with
    | none =>
      have hp := (outcome?_eq_none_iff _).1 hout
      refine ⟨.ok (.retry "Probe cancelled by worker shutdown"), [], s, ?_, by simp, by simp, ?_⟩
      · simp only [execute, hargs, hout, run_pure]
      · constructor <;> intros <;> simp_all
    | some outcome =>
      have hp : probe args.path ≠ .error .cancelled := by
        intro h
        rw [(outcome?_eq_none_iff _).2 h] at hout
        simp at hout
      cases huri : args.webhookUri with
      | none =>
        refine ⟨_, [], s, run_execute_untold hargs hout huri s, by simp, by simp, ?_⟩
        constructor <;> intros <;> simp_all
      | some uri =>
        obtain ⟨r, main, rest, s', hrun, hlog, hwoke, hfan⟩ := run_execute_told hargs hout huri s
        refine ⟨r, main ++ rest, s', hrun, hlog, hwoke, ?_⟩
        constructor
        · simp [hargs]
        · simp [hargs, hp]
        · simp [hargs, huri]
        · intro args' uri' hargs' _ huri'
          rw [hargs] at hargs'
          cases hargs'
          rw [huri] at huri'
          cases huri'
          exact ⟨outcome, main, rest, hout, rfl, hfan⟩

end Extraction

end VideoProbe
