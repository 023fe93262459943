import VideoProbe.Proofs.Stored

/-!
# What a client is told of its job

The view of a job is made in three steps, and their order matters.  The status is first that of the
state; an error that was recorded as the outcome of a completed job then makes it *failed*; and only
the status that comes out of this decides whether the failed attempts are looked at.  So a failure
is never shown as completed, and an attempt that failed is not shown as long as there may be another
one.

`ofJob_projects` says what the view is for every state, every outcome and every history, as long as
an output is recorded for completed jobs only.  It goes by the outcome: with one, the job is
completed and its history does not count (`ofJob_result`, `ofJob_error`); without one, the view is
made from the state and the history alone (`ofJob_unrecorded`).
-/

namespace VideoProbe

/-! ## States and statuses -/

namespace InfoStatus

/-- Only a job that is done is shown as completed. -/
theorem ofState_eq_completed_iff {s : Job.State} : ofState s = .completed ↔ s = .completed := by
  cases s <;> simp [ofState]

/-- A job that has been given up or cancelled is shown as failed. -/
theorem ofState_eq_failed_iff {s : Job.State} :
    ofState s = .failed ↔ s = .discarded ∨ s = .cancelled := by
  cases s <;> simp [ofState]

/-- A job that is being worked on is shown as running. -/
theorem ofState_eq_running_iff {s : Job.State} : ofState s = .running ↔ s = .running := by
  cases s <;> simp [ofState]

/-- All others are waiting, for whatever reason. -/
theorem ofState_eq_pending_iff {s : Job.State} :
    ofState s = .pending ↔
      s = .available ∨ s = .scheduled ∨ s = .retryable ∨ s = .pending := by
  cases s <;> simp [ofState]

end InfoStatus

/-- A job without an output has no outcome. -/
theorem Job.outcome_of_no_output {j : Job} (h : j.output = none) : j.outcome = .ok none := by
  unfold Job.outcome
  rw [h]

/-- The last of the failed attempts of a job. -/
theorem Job.lastError_concat {j : Job} {before : List AttemptError} {e : AttemptError}
    (h : j.errors = before ++ [e]) : j.lastError = some e.message := by
  unfold Job.lastError
  rw [h, List.getLast?_concat]
  rfl

/-! ## Views -/

/-- What the view of a job says, given what the job's arguments and its output are read as. -/
structure Projects (uuid : Uuid) (j : Job) (args : InfoArgs) (outcome : Option Outcome)
    (view : InfoView) : Prop where
  notBoth : ¬ (view.result.isSome = true ∧ view.error.isSome = true)
  completed_iff : view.status = .completed ↔
    j.state = .completed ∧ ∀ message, outcome ≠ some (.error message)
  completed_tells : view.status = .completed →
    view.error = none ∧ view.result = outcome.bind Outcome.result?
  failed_iff : view.status = .failed ↔
    j.state = .discarded ∨ j.state = .cancelled ∨ ∃ message, outcome = some (.error message)
  failed_tells : view.status = .failed → view.result = none
  /-- An error that was recorded is the one that is shown. -/
  recorded : ∀ message, outcome = some (.error message) → view.error = some message
  /-- Where none was recorded, the error is that of the last attempt, if there was one. -/
  unrecorded : view.status = .failed → (∀ message, outcome ≠ some (.error message)) →
    (∀ before e, j.errors = before ++ [e] → view.error = some e.message) ∧
      (j.errors = [] ↔ view.error = none)
  running_iff : view.status = .running ↔ j.state = .running
  pending_iff : view.status = .pending ↔
    j.state = .available ∨ j.state = .scheduled ∨ j.state = .retryable ∨ j.state = .pending
  /-- As long as the job is not done, nothing is shown of its attempts. -/
  undecided : view.status = .running ∨ view.status = .pending →
    view.result = none ∧ view.error = none
  updated : (∀ t, j.finalizedAt = some t → view.updatedAt = t) ∧
    (j.finalizedAt = none → view.updatedAt = j.createdAt)
  described : view.uuid = uuid ∧ view.videoPath = args.path ∧ view.createdAt = j.createdAt

section OfJob

variable {j : Job} {args : InfoArgs} (uuid : Uuid)

/-- A job was last changed when it was finished, or else when it was made. -/
theorem updated_of_getD (j : Job) :
    (∀ t, j.finalizedAt = some t → j.finalizedAt.getD j.createdAt = t) ∧
      (j.finalizedAt = none → j.finalizedAt.getD j.createdAt = j.createdAt) := by
  cases j.finalizedAt <;> simp

/-- A completed job with a result. -/
theorem ofJob_result {info : VideoInfo} (hargs : j.readArgs InfoArgs.arguments = .ok args)
    (houtcome : j.outcome = .ok (some (.result info))) (hstate : j.state = .completed) :
    ∃ view, InfoView.ofJob uuid j = .ok view ∧
      Projects uuid j args (some (.result info)) view := by
  have hview : InfoView.ofJob uuid j = .ok {
      uuid, status := .completed, videoPath := args.path, result := some info, error := none,
      createdAt := j.createdAt, updatedAt := j.finalizedAt.getD j.createdAt } := by
    unfold InfoView.ofJob
    rw [hargs, houtcome, hstate]
    rfl
  refine ⟨_, hview, ?_⟩
  constructor
  case updated => exact updated_of_getD j
  all_goals simp [hstate, Outcome.result?]

/-- A completed job with an error: whatever its attempts said, the recorded error is shown. -/
theorem ofJob_error {message : String} (hargs : j.readArgs InfoArgs.arguments = .ok args)
    (houtcome : j.outcome = .ok (some (.error message))) (hstate : j.state = .completed) :
    ∃ view, InfoView.ofJob uuid j = .ok view ∧
      Projects uuid j args (some (.error message)) view := by
  have hview : InfoView.ofJob uuid j = .ok {
      uuid, status := .failed, videoPath := args.path, result := none, error := some message,
      createdAt := j.createdAt, updatedAt := j.finalizedAt.getD j.createdAt } := by
    unfold InfoView.ofJob
    rw [hargs, houtcome, hstate]
    rfl
  refine ⟨_, hview, ?_⟩
  constructor
  case updated => exact updated_of_getD j
  all_goals simp [hstate]

/-- A job without an outcome: its state decides, and its history counts if it has failed. -/
theorem ofJob_unrecorded (hargs : j.readArgs InfoArgs.arguments = .ok args)
    (houtcome : j.outcome = .ok none) :
    ∃ view, InfoView.ofJob uuid j = .ok view ∧ Projects uuid j args none view := by
  -- With no outcome only the last error of the history can make the view say something.
  have hview : InfoView.ofJob uuid j = .ok {
      uuid, status := .ofState j.state, videoPath := args.path, result := none,
      error := if InfoStatus.ofState j.state = .failed then j.lastError else none,
      createdAt := j.createdAt, updatedAt := j.finalizedAt.getD j.createdAt } := by
    unfold InfoView.ofJob
    rw [hargs, houtcome]
    rfl
  refine ⟨_, hview, ?_⟩
  constructor
  · simp
  · simp [InfoStatus.ofState_eq_completed_iff]
  · intro hcompleted
    simp only at hcompleted
    simp [hcompleted]
  · simp [InfoStatus.ofState_eq_failed_iff]
  · exact fun _ => rfl
  · simp
  · intro hfailed _
    simp only at hfailed
    dsimp only
    rw [if_pos hfailed]
    refine ⟨fun before e h => Job.lastError_concat h, ?_⟩
    simp [Job.lastError]
  · exact InfoStatus.ofState_eq_running_iff
  · exact InfoStatus.ofState_eq_pending_iff
  · intro hundecided
    have hfailed : InfoStatus.ofState j.state ≠ .failed := by
      rcases hundecided with h | h <;> simp only at h <;> simp [h]
    exact ⟨rfl, if_neg hfailed⟩
  · exact updated_of_getD j
  · exact ⟨rfl, rfl, rfl⟩

end OfJob

/-- **What a client is told of its job**, whatever the state, the outcome and the failed attempts of
the job are: an output is there only if the job is completed, and arguments and output can be
read. -/
theorem ofJob_projects (uuid : Uuid) (j : Job) (args : InfoArgs) (outcome : Option Outcome)
    (hargs : j.readArgs InfoArgs.arguments = .ok args) (houtcome : j.outcome = .ok outcome)
    (hwritten : j.output ≠ none → j.state = .completed) :
    ∃ view, InfoView.ofJob uuid j = .ok view ∧ Projects uuid j args outcome view := by
  cases outcome with
  | none => exact ofJob_unrecorded uuid hargs houtcome
  | some o =>
    have houtput : j.output ≠ none := by
      intro hnone
      rw [Job.outcome_of_no_output hnone] at houtcome
      exact nomatch houtcome
    have hstate := hwritten houtput
    cases o with
    | result info => exact ofJob_result uuid hargs houtcome hstate
    | error message => exact ofJob_error uuid hargs houtcome hstate

/-- A video to be examined. -/
def talk : InfoArgs :=
  ⟨Uuid.ofCount 2, "/talk.mp4", none, none⟩

/-- Its job was given up after two attempts. -/
def givenUp : Job where
  id := Uuid.ofCount 1
  kind := .info
  state := .discarded
  args := talk.toJson.sorted
  output := none
  errors := [⟨⟨1, 0⟩, 1, "first"⟩, ⟨⟨2, 0⟩, 2, "second"⟩]
  attempt := 2
  maxAttempts := 2
  createdAt := ⟨0, 0⟩
  scheduledAt := ⟨0, 0⟩
  attemptedAt := some ⟨1, 0⟩
  finalizedAt := some ⟨2, 0⟩

/-- The client is told that it failed, with what the second attempt said. -/
theorem ofJob_projects_givenUp :
    ∃ view, InfoView.ofJob talk.uuid givenUp = .ok view ∧
      Projects talk.uuid givenUp talk none view ∧
      view.status = .failed ∧ view.error = some "second" ∧ view.updatedAt = ⟨2, 0⟩ := by
  obtain ⟨view, hview, h⟩ := ofJob_projects talk.uuid givenUp talk none
    (InfoArgs.readArgs_of_stored rfl rfl) rfl (fun houtput => absurd rfl houtput)
  have hfailed : view.status = .failed := h.failed_iff.2 (Or.inl rfl)
  have herror := (h.unrecorded hfailed (by simp)).1 [⟨⟨1, 0⟩, 1, "first"⟩] ⟨⟨2, 0⟩, 2, "second"⟩ rfl
  exact ⟨view, hview, h, hfailed, herror, h.updated.1 _ rfl⟩

end VideoProbe
