import VideoProbe.Proofs.FanOut
import VideoProbe.Proofs.Stored

/-!
# One outcome, three views

What a probe finds reaches the client on two ways.  The output of the job is recorded, and whoever
asks sees a view that is made from it; and a client that wants to be told gets a delivery, made from
arguments that were stored in their own right.  Both say the same, and it is what the probe said:
`views_agree`.
-/

namespace VideoProbe

open VideoProbe.Database

/-- The words of a probe error are never empty: each kind of error has some of its own. -/
theorem ProbeError.message_ne_empty (e : ProbeError) : e.message ≠ "" := by
  have hleft : ∀ {a : String} (b : String), a ≠ "" → a ++ b ≠ "" := fun b ha hab =>
    ha (String.append_eq_empty_iff.1 hab).1
  cases e with
  | spawn reason => exact hleft _ (by decide)
  | failed detail => exact hleft _ (by decide)
  | parse reason => exact hleft _ (by decide)
  | invalidNumber field value => exact hleft _ (hleft _ (hleft _ (by decide)))
  | timedOut seconds => exact hleft _ (hleft _ (by decide))
  | cancelled => exact (by decide : "probe cancelled" ≠ "")

namespace Extraction

/-- A view shows what a probe said. -/
def Shows (p : Except ProbeError VideoInfo) (view : InfoView) : Prop :=
  match p with
  | .ok v => view.status = .completed ∧ view.result = some v ∧ view.error = none
  | .error e =>
    view.status = .failed ∧ view.result = none ∧ view.error = some e.message ∧ e.message ≠ ""

/-- A stored delivery goes to the client that asked for it, and its body tells what a view shows:
a result or an error, and not both. -/
def Tells (args : InfoArgs) (stored : Json) (view : InfoView) : Prop :=
  ∃ w, WebhookArgs.decoder.ofValue stored = .ok w ∧ args.webhookUri = some w.uri ∧
    w.uuid = args.uuid ∧ w.token = args.webhookToken ∧
    (WebhookPayload.ofArgs w).uuid = args.uuid ∧
    (WebhookPayload.ofArgs w).token = args.webhookToken ∧
    (WebhookPayload.ofArgs w).result = view.result ∧
    (WebhookPayload.ofArgs w).error = view.error ∧
    (view.result.isSome ↔ view.error = none)

/-- A handler hands an output over for recording: it gives it back to the worker, or it records it
itself. -/
def HandsOver (r : Except Failure HandlerResult) (xs : List Exchange) (output : Option Json) :
    Prop :=
  r = .ok (.success output) ∨
    ∃ x ∈ xs, ∃ t id attempt, x.statement = .completeJob t output id attempt

/-- The outcome of a probe that is stored in full. -/
theorem restores_outcome {p : Except ProbeError VideoInfo} {outcome : Outcome}
    (hout : outcome? p = some outcome) (hfin : ∀ v, p = .ok v → v.IsFinite) :
    Outcome.decoder.Restores Outcome.toJson outcome := by
  refine Outcome.restores fun v hv => hfin v ?_
  subst hv
  unfold outcome? at hout
  split at hout <;> simp_all

/-- The view of a completed job is made from its outcome alone. -/
theorem view_of_completed {args : InfoArgs} {job : Job} {outcome : Outcome}
    (hargs : job.readArgs InfoArgs.arguments = .ok args)
    (hstored : Outcome.decoder.Restores Outcome.toJson outcome) :
    ∃ view, InfoView.ofJob args.uuid
        { job with state := .completed, output := some outcome.toJson.sorted } = .ok view ∧
      view.status = (if outcome.error?.isSome then .failed else .completed) ∧
      view.result = outcome.result? ∧ view.error = outcome.error? := by
  have hread : Job.readArgs InfoArgs.arguments
      { job with state := .completed, output := some outcome.toJson.sorted } = .ok args := hargs
  -- What was stored is read again before it is shown.
  have houtcome : Job.outcome
      { job with state := .completed, output := some outcome.toJson.sorted } =
        .ok (some outcome) := by
    have hdec := hstored.ofValue
    unfold Job.outcome
    rw [Outcome.sorted_toJson] at hdec ⊢
    cases outcome <;> simp only [hdec]
  unfold InfoView.ofJob
  rw [hread, houtcome]
  refine ⟨_, rfl, ?_⟩
  cases outcome with
  | result v => exact ⟨rfl, rfl, rfl⟩
  | error m => exact ⟨rfl, rfl, rfl⟩

/-- What is said of an outcome is said of the probe. -/
theorem shows_of_outcome {p : Except ProbeError VideoInfo} {outcome : Outcome} {view : InfoView}
    (hout : outcome? p = some outcome)
    (hstatus : view.status = (if outcome.error?.isSome then .failed else .completed))
    (hresult : view.result = outcome.result?) (herror : view.error = outcome.error?) :
    Shows p view := by
  unfold outcome? at hout
  split at hout
  · cases hout
    exact ⟨hstatus, hresult, herror⟩
  · simp at hout
  · cases hout
    exact ⟨hstatus, hresult, herror, ProbeError.message_ne_empty _⟩

/-- The stored arguments of a delivery tell what the view of the same outcome shows. -/
theorem tells_of_outcome {args : InfoArgs} {uri : String} {outcome : Outcome} {view : InfoView}
    (huri : args.webhookUri = some uri)
    (hstored : Outcome.decoder.Restores Outcome.toJson outcome)
    (hresult : view.result = outcome.result?) (herror : view.error = outcome.error?) :
    Tells args (webhookJob uri args outcome).args view := by
  have hw := WebhookArgs.restores (a := ⟨uri, args.webhookToken, args.uuid, outcome⟩) hstored
  refine ⟨_, hw.ofValue, huri, rfl, rfl, rfl, rfl, hresult.symm, herror.symm, ?_⟩
  rw [hresult, herror]
  cases outcome <;> simp [Outcome.result?, Outcome.error?]

/-- The exchanges of a handler that records an outcome complete the job with that outcome, and
insert its delivery and no other job. -/
theorem FanOut.statements {job : Job} {webhook : NewJob} {output : Json}
    {r : Except Failure HandlerResult} {main rest : List Exchange}
    (h : FanOut job webhook output r main rest) :
    ∀ x ∈ main ++ rest,
      (∀ t o id n, x.statement = .completeJob t o id n → o = some output) ∧
      ∀ id new t, x.statement = .insertJob id new t → new = webhook := by
  obtain ⟨id, inserted, completed, closing, hclosing, hb⟩ := h.bracket
  intro x hx
  rcases List.mem_append.1 hx with hx | hx
  · have hplan : x.statement ∈ plan job webhook output id inserted completed closing :=
      hb.follows.subset (List.mem_map_of_mem hx)
    simp only [plan, List.mem_cons, List.not_mem_nil, or_false] at hplan
    rcases hclosing with rfl | rfl <;> rcases hplan with hs | hs | hs | hs <;>
      simp +contextual [hs, eq_comm]
  · rcases hb.atMostOne with rfl | ⟨f, rfl⟩
    · simp at hx
    · rw [List.mem_singleton.1 hx]
      simp

/-- A handler whose probe says `p` answers `r` and hands over `xs`; all of it agrees with one output
and with the view that is made from this output. -/
structure Agree (p : Except ProbeError VideoInfo) (job : Job) (args : InfoArgs)
    (r : Except Failure HandlerResult) (xs : List Exchange) (output : Json) (view : InfoView) :
    Prop where
  handed : ∀ o, HandsOver r xs o → o = some output
  untold : args.webhookUri = none → r = .ok (.success (some output))
  projected : InfoView.ofJob args.uuid { job with state := .completed, output := some output } =
    .ok view
  shown : Shows p view
  delivered : ∀ x ∈ xs, ∀ id new t, x.statement = .insertJob id new t → Tells args new.args view

/-- **One outcome, three views.**  Whatever a handler hands over for recording is one output, and
the view that is made from it shows what the probe said; so does every delivery that the handler
inserts. -/
theorem views_agree (probe : String → Except ProbeError VideoInfo) (job : Job) (args : InfoArgs)
    (hargs : job.readArgs InfoArgs.arguments = .ok args)
    (hp : probe args.path ≠ .error .cancelled)
    (hfin : ∀ v, probe args.path = .ok v → v.IsFinite) (s : Session) :
    ∃ r xs s' output view, (execute probe job).run s = (r, s') ∧ s'.log = s.log ++ xs ∧
      Agree (probe args.path) job args r xs output view := by
  obtain ⟨outcome, hout⟩ : ∃ outcome, outcome? (probe args.path) = some outcome := by
    cases h : outcome? (probe args.path) with
    | none => exact absurd ((outcome?_eq_none_iff _).1 h) hp
    | some outcome => exact ⟨outcome, rfl⟩
  have hstored := restores_outcome hout hfin
  obtain ⟨view, hview, hstatus, hresult, herror⟩ := view_of_completed hargs hstored
  have hshown := shows_of_outcome hout hstatus hresult herror
  cases huri : args.webhookUri with
  | none =>
    refine ⟨_, [], s, outcome.toJson.sorted, view, run_execute_untold hargs hout huri s, by simp,
      ?_, fun _ => rfl, hview, hshown, by simp⟩
    -- No statement is handed over, so there is only what the worker is given.
    rintro o (ho | ⟨x, hx, -⟩)
    · simpa using ho.symm
    · simp at hx
  | some uri =>
    obtain ⟨r, main, rest, s', hrun, hlog, -, hfan⟩ := run_execute_told hargs hout huri s
    refine ⟨r, main ++ rest, s', outcome.toJson.sorted, view, hrun, hlog, ?_, by simp [huri], hview,
      hshown, ?_⟩
    · rintro o (ho | ⟨x, hx, t, id, n, hs⟩)
      · -- A handler that records the outcome itself gives no output to the worker.
        rcases hfan.otherwise with h | h | ⟨m, h⟩ | h <;> simp [ho] at h
      · exact (hfan.statements x hx).1 t o id n hs
    · intro x hx id new t hs
      rw [(hfan.statements x hx).2 id new t hs]
      exact tells_of_outcome huri hstored hresult herror

/-- A claimed job as the queue gives it for some arguments. -/
def claimed (args : InfoArgs) : Job where
  id := Uuid.ofCount 1
  kind := .info
  state := .running
  args := args.toJson.sorted
  output := none
  errors := []
  attempt := 1
  maxAttempts := 25
  createdAt := ⟨0, 0⟩
  scheduledAt := ⟨0, 0⟩
  attemptedAt := some ⟨0, 0⟩
  finalizedAt := none

/-- A database that stores a delivery, and the outcome after it. -/
def storing (delivery : NewJob) : Session where
  link := .up
  script := [{ reply := .rows [rowOfInsert (Uuid.ofCount 1) delivery ⟨0, 0⟩] },
    { reply := .affected 1 }]
  now := ⟨0, 0⟩

/-- It is asked to store both, and the transaction is committed. -/
theorem log_execute_storing {probe : String → Except ProbeError VideoInfo} {job : Job}
    {args : InfoArgs} {outcome : Outcome} {uri : String}
    (hargs : job.readArgs InfoArgs.arguments = .ok args)
    (hout : outcome? (probe args.path) = some outcome) (huri : args.webhookUri = some uri) :
    ((execute probe job).run (storing (webhookJob uri args outcome))).2.log =
      [⟨.begin, .answered ⟨[], 0⟩⟩,
        ⟨.insertJob (Uuid.ofCount 1) (webhookJob uri args outcome) ⟨0, 0⟩,
          .answered ⟨[rowOfInsert (Uuid.ofCount 1) (webhookJob uri args outcome) ⟨0, 0⟩], 1⟩⟩,
        ⟨.completeJob ⟨0, 0⟩ (some outcome.toJson.sorted) job.id job.attempt,
          .answered ⟨[], 1⟩⟩,
        ⟨.commit, .answered ⟨[], 0⟩⟩] := by
  have hstored : (completeWithWebhook job uri args outcome).run
      (storing (webhookJob uri args outcome)) = (.ok true, _) := rfl
  simp only [execute, hargs, hout, huri, run_bind, run_attempted, hstored]
  rfl

/-- A client that wants to be told of a video. -/
def told : InfoArgs :=
  ⟨Uuid.ofCount 2, "/a.mp4", some "http://b/", some [7]⟩

/-- A video in two chapters. -/
def chaptered : VideoInfo :=
  ⟨1.5, [0.5, 1]⟩

/-- The delivery and the outcome of a video with chapters are both stored, and they agree. -/
theorem views_agree_chapters :
    ∃ r xs s' output view,
      (execute (fun _ => .ok chaptered) (claimed told)).run
          (storing (webhookJob "http://b/" told (.result chaptered))) = (r, s') ∧
      s'.log = [] ++ xs ∧
      (∃ x ∈ xs, ∃ id new t, x.statement = .insertJob id new t ∧ Tells told new.args view) ∧
      (∃ x ∈ xs, ∃ t id attempt, x.statement = .completeJob t (some output) id attempt) ∧
      Agree (.ok chaptered) (claimed told) told r xs output view := by
  have hargs : (claimed told).readArgs InfoArgs.arguments = .ok told :=
    InfoArgs.readArgs_of_stored rfl rfl
  obtain ⟨r, xs, s', output, view, hrun, hlog, hagree⟩ :=
    views_agree (fun _ => .ok chaptered) (claimed told) told hargs (by simp)
      (fun v hv => by cases hv; exact ⟨by decide, by decide⟩)
      (storing (webhookJob "http://b/" told (.result chaptered)))
  have hsent := @log_execute_storing (fun _ => .ok chaptered) _ _ _ _ hargs rfl rfl
  rw [hrun, hlog] at hsent
  have hinserted : ∃ x ∈ xs, x.statement =
      .insertJob (Uuid.ofCount 1) (webhookJob "http://b/" told (.result chaptered)) ⟨0, 0⟩ := by
    rw [show xs = _ from hsent]
    exact ⟨_, List.mem_cons_of_mem _ List.mem_cons_self, rfl⟩
  have hcompleted : ∃ x ∈ xs, x.statement = .completeJob ⟨0, 0⟩
      (some (Outcome.result chaptered).toJson.sorted) (claimed told).id (claimed told).attempt := by
    rw [show xs = _ from hsent]
    exact ⟨_, List.mem_cons_of_mem _ (List.mem_cons_of_mem _ List.mem_cons_self), rfl⟩
  obtain ⟨x, hx, hinsert⟩ := hinserted
  obtain ⟨y, hy, hcomplete⟩ := hcompleted
  obtain rfl := Option.some.inj (hagree.handed _ (Or.inr ⟨y, hy, _, _, _, hcomplete⟩))
  exact ⟨r, xs, s', _, view, hrun, hlog,
    ⟨x, hx, _, _, _, hinsert, hagree.delivered x hx _ _ _ hinsert⟩,
    ⟨y, hy, _, _, _, hcomplete⟩, hagree⟩

end Extraction

end VideoProbe
