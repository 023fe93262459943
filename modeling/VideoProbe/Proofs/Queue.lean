import VideoProbe.Proofs.Conversation
import VideoProbe.Queue

/-!
# What the queue hands over

Each operation of the queue hands over one statement, and what it answers depends on nothing but
the fate of that statement.
-/

namespace VideoProbe.Database

/-- The first row, which has to be there. -/
def Fate.firstRow (f : Fate) : Except Failure Row :=
  f.result.bind fun a =>
    match a.rows.head? with
    | some row => .ok row
    | none => .error (.error (.database .rowNotFound))

/-- The job in the first row, which has to be there. -/
def Fate.job (f : Fate) : Except Failure Job :=
  f.firstRow.bind jobOfRow

/-- An answer with a row is read as the job of this row. -/
theorem Fate.job_of_row {f : Fate} {row : Row} (h : f.row? = some row) : f.job = jobOfRow row := by
  cases f with
  | answered a =>
    have ha : a.rows.head? = some row := h
    simp [Fate.job, Fate.firstRow, Fate.result, Fate.answer, Except.bind, ha]
  | _ => simp [Fate.row?] at h

/-- Where there is no job, there is an answer with no row or with a row that cannot be read, or no
answer at all. -/
theorem Fate.job_error {f : Fate} {e : Failure} (h : f.job = .error e) :
    (∃ c, f.answer = .error c ∧ e = .error (.database c)) ∨
      (f.isAnswered = true ∧ f.row? = none ∧ e = .error (.database .rowNotFound)) ∨
      (f.isAnswered = true ∧ ∃ row, f.row? = some row ∧ jobOfRow row = .error e) := by
  rcases f.answer_cases with ⟨a, rfl⟩ | ⟨c, hc, -⟩
  · cases hrow : a.rows.head? with
    | none =>
      refine Or.inr (Or.inl ⟨rfl, hrow, ?_⟩)
      simpa [Fate.job, Fate.firstRow, Fate.result, Fate.answer, Except.bind, hrow] using h.symm
    | some row =>
      refine Or.inr (Or.inr ⟨rfl, row, hrow, ?_⟩)
      rw [← h]
      exact (job_of_row (f := .answered a) hrow).symm
  · refine Or.inl ⟨c, hc, ?_⟩
    simpa [Fate.job, Fate.firstRow, Fate.result_of_error hc, Except.bind] using h.symm

/-- A job that is there was in the first row. -/
theorem Fate.row_of_job {f : Fate} {j : Job} (h : f.job = .ok j) :
    f.isAnswered = true ∧ ∃ row, f.row? = some row ∧ jobOfRow row = .ok j := by
  rcases f.answer_cases with ⟨a, rfl⟩ | ⟨c, hc, -⟩
  · cases hrow : a.rows.head? with
    | none => simp [Fate.job, Fate.firstRow, Fate.result, Fate.answer, Except.bind, hrow] at h
    | some row =>
      refine ⟨rfl, row, hrow, ?_⟩
      rw [← h]
      exact (job_of_row (f := .answered a) hrow).symm
  · simp [Fate.job, Fate.firstRow, Fate.result_of_error hc, Except.bind] at h

/-- Only a row that is there can crash. -/
theorem Fate.job_crash_iff (f : Fate) :
    f.job = .error .crash ↔ ∃ row, f.row? = some row ∧ jobOfRow row = .error .crash := by
  constructor
  · intro h
    rcases job_error h with ⟨c, -, hc⟩ | ⟨-, -, hc⟩ | ⟨-, hrow⟩
    · simp at hc
    · simp at hc
    · exact hrow
  · rintro ⟨row, hrow, hcrash⟩
    rw [job_of_row hrow, hcrash]

/-- A job that is there crashed nobody. -/
theorem Fate.safe_of_job {f : Fate} {j : Job} (h : f.job = .ok j) :
    ¬ ∃ row, f.row? = some row ∧ jobOfRow row = .error .crash := by
  rw [← Fate.job_crash_iff, h]
  simp

/-- Reading a row sends nothing. -/
theorem run_readRow (read : Row → Except Failure α) (row : Row) (s : Session) :
    (readRow read row).run s = (read row, s) := by
  unfold readRow
  cases read row <;> rfl

/-- To execute a statement is to send it and to keep the count of its answer. -/
theorem talks_execute (s : Session) (st : Statement) :
    ∃ f s', Talks (execute st) s (f.result.map Answer.affected) [⟨st, f⟩] s' ∧
      (s.connected = true → ∀ e, f ≠ .unsent e) := by
  obtain ⟨f, s', ht, hsent⟩ := talks_send s st
  exact ⟨f, s', ht.inspect (fun _ _ => rfl), hsent⟩

/-- The same for the first row of the answer, if there is one. -/
theorem talks_fetchOptional (s : Session) (st : Statement) :
    ∃ f s', Talks (fetchOptional st) s (f.result.map fun a => a.rows.head?) [⟨st, f⟩] s' ∧
      (s.connected = true → ∀ e, f ≠ .unsent e) := by
  obtain ⟨f, s', ht, hsent⟩ := talks_send s st
  exact ⟨f, s', ht.inspect (fun _ _ => rfl), hsent⟩

/-- The same for the first row, which has to be there. -/
theorem talks_fetchOne (s : Session) (st : Statement) :
    ∃ f s', Talks (fetchOne st) s f.firstRow [⟨st, f⟩] s' ∧
      (s.connected = true → ∀ e, f ≠ .unsent e) := by
  obtain ⟨f, s', ht, hsent⟩ := talks_fetchOptional s st
  refine ⟨f, s', ?_, hsent⟩
  have h := ht.inspect
    (k := fun o => match o with
      | some row => return row
      | none => refuse .rowNotFound)
    (g := fun o => match o with
      | some row => .ok row
      | none => .error (.error (.database .rowNotFound)))
    (fun o _ => by cases o <;> rfl)
  have hr : ((f.result.map fun a => a.rows.head?).bind fun o => match o with
      | some row => .ok row
      | none => .error (.error (.database .rowNotFound))) = f.firstRow := by
    unfold Fate.firstRow
    cases f.result <;> rfl
  exact hr ▸ h

end VideoProbe.Database

namespace VideoProbe.Queue

open VideoProbe.Database

/-- A new job is inserted by one statement, and read from the row that comes back. -/
theorem talks_insertWithin (s : Session) (job : NewJob) :
    ∃ id t f s', Talks (insertWithin job) s f.job [⟨.insertJob id job t, f⟩] s' ∧
      (s.connected = true → ∀ e, f ≠ .unsent e) := by
  obtain ⟨f, s', ht, hsent⟩ :=
    talks_fetchOne { s with made := s.made + 1 } (.insertJob (Uuid.ofCount (s.made + 1)) job s.now)
  refine ⟨Uuid.ofCount (s.made + 1), s.now, f, s', ?_, hsent⟩
  have hnow : Talks now s (.ok s.now) [] s := .silent rfl
  have hid : Talks newId s (.ok (Uuid.ofCount (s.made + 1))) [] { s with made := s.made + 1 } :=
    ⟨rfl, by simp, rfl, rfl⟩
  exact hnow.bind (hid.bind (ht.inspect (fun row s => run_readRow jobOfRow row s)))

/-- An insertion outside a transaction hands over the same statement.  (It may wake the workers.) -/
theorem run_insert (s : Session) (job : NewJob) :
    ∃ r id t f s', (insert job).run s = (r, s') ∧ s'.log = s.log ++ [⟨.insertJob id job t, f⟩] := by
  obtain ⟨id, t, f, s', ht, -⟩ := talks_insertWithin s job
  simp only [insert, run_bind, ht.run]
  cases f.job with
  | error e => exact ⟨.error e, id, t, f, s', rfl, ht.log⟩
  | ok stored => exact ⟨.ok stored, id, t, f, { s' with woke := true }, rfl, ht.log⟩

/-- A job is completed by one statement, and whether it was still owned is told by the count. -/
theorem talks_completeWithin (s : Session) (id : Uuid) (attempt : Int) (output : Option Json) :
    ∃ t f s', Talks (completeWithin id attempt output) s
        (f.result.map fun a => decide (a.affected = 1)) [⟨.completeJob t output id attempt, f⟩] s' ∧
      (s.connected = true → ∀ e, f ≠ .unsent e) := by
  obtain ⟨f, s', ht, hsent⟩ := talks_execute s (.completeJob s.now output id attempt)
  refine ⟨s.now, f, s', ?_, hsent⟩
  have hnow : Talks now s (.ok s.now) [] s := .silent rfl
  have hr : (f.result.map Answer.affected).bind (fun n => .ok (decide (n = 1)))
      = f.result.map fun a => decide (a.affected = 1) := by
    cases f.result <;> rfl
  exact hnow.bind (hr ▸ ht.inspect (fun _ _ => rfl))

/-- How the completion of an attempt may go: the transaction cannot be opened, or its one statement
fails, or everything depends on the commit. -/
inductive CompleteCourse (id : Uuid) (attempt : Int) (output : Option Json) :
    Except Failure Bool → List Exchange → Prop
  | unopened {f : Fate} {e : DatabaseError} (hf : f.answer = .error e) :
      CompleteCourse id attempt output (.error (.error (.database e))) [⟨.begin, f⟩]
  | failed {a : Answer} {t : Instant} {f : Fate} {e : DatabaseError} {zs : List Exchange}
      (hf : f.answer = .error e) (hsent : ∀ e, f ≠ .unsent e) (hz : GivenUp f.keepsConnection zs) :
      CompleteCourse id attempt output (.error (.error (.database e)))
        (⟨.begin, .answered a⟩ :: ([⟨.completeJob t output id attempt, f⟩] ++ zs))
  | answered {a b : Answer} {t : Instant} {r : Except Failure Unit} {zs : List Exchange}
      (hz : ClosedBy .commit true r zs) :
      CompleteCourse id attempt output (r.map fun _ => decide (b.affected = 1))
        (⟨.begin, .answered a⟩ :: ([⟨.completeJob t output id attempt, .answered b⟩] ++ zs))

/-- Completing a job takes a transaction around one statement, which is committed whatever its
count. -/
theorem talks_complete (s : Session) (id : Uuid) (attempt : Int) (output : Option Json) :
    ∃ q xs s', Talks (complete id attempt output) s q xs s' ∧
      CompleteCourse id attempt output q xs := by
  -- The body is one exchange, and the count of its answer is what the transaction returns.
  have hbody : ∀ s : Session, s.connected = true → ∃ r ys s',
      Talks (do return .commit (← completeWithin id attempt output)) s r ys s' ∧
        ∃ t f, (∀ e, f ≠ .unsent e) ∧ ys = [⟨.completeJob t output id attempt, f⟩] ∧
          r = f.result.map fun a => Closing.commit (decide (a.affected = 1)) := by
    intro s hc
    obtain ⟨t, f, s', ht, hsent⟩ := talks_completeWithin s id attempt output
    have h := ht.inspect (k := fun owned => (pure (.commit owned) : Operation (Closing Bool)))
      (g := fun owned => .ok (.commit owned)) (fun _ _ => rfl)
    refine ⟨_, _, s', h, t, f, hsent hc, rfl, ?_⟩
    cases f.result <;> rfl
  rcases talks_transaction hbody s with
    ⟨f, e, s', hf, ht⟩ | ⟨a, r, ys, zs, q, s', ⟨t, f, hsent, rfl, rfl⟩, hcloses, ht⟩
  · exact ⟨_, _, s', ht, .unopened hf⟩
  · refine ⟨q, _, s', ht, ?_⟩
    rcases f.answer_cases with ⟨b, rfl⟩ | ⟨e, he, -⟩
    · cases hcloses with
      | committed hz => exact .answered hz
    · rw [Fate.result_of_error he] at hcloses
      cases hcloses with
      | abandoned hz => exact .failed he hsent hz

/-- What a claim makes of the first row. -/
def claimOfRow : Option Row → Except Failure (Option Job)
  | none => .ok none
  | some row => (jobOfRow row).map some

/-- Claiming is one statement, and its row is the job. -/
theorem talks_claim (s : Session) (kinds : List Job.Kind) :
    ∃ f s', Talks (claim kinds) s ((f.result.map fun a => a.rows.head?).bind claimOfRow)
      [⟨.claimJob s.now kinds, f⟩] s' := by
  obtain ⟨f, s', ht, -⟩ := talks_fetchOptional s (.claimJob s.now kinds)
  have hnow : Talks now s (.ok s.now) [] s := .silent rfl
  refine ⟨f, s', hnow.bind (ht.inspect (fun o s => ?_))⟩
  cases o with
  | none => rfl
  | some row =>
    simp only [claimOfRow, run_bind, run_readRow]
    cases jobOfRow row <;> rfl

/-- A claim crashes only where its row breaks the schema. -/
theorem crash_of_claim {f : Fate}
    (h : (f.result.map fun a => a.rows.head?).bind claimOfRow = .error .crash) :
    ∃ row, f.row? = some row ∧ jobOfRow row = .error .crash := by
  rcases f.answer_cases with ⟨a, rfl⟩ | ⟨e, he, -⟩
  · have hclaim : claimOfRow a.rows.head? = .error .crash := h
    cases hrow : a.rows.head? with
    | none => simp [hrow, claimOfRow] at hclaim
    | some row =>
      rw [hrow] at hclaim
      cases hjob : jobOfRow row with
      | ok j => simp [claimOfRow, hjob, Except.map] at hclaim
      | error e =>
        simp only [claimOfRow, hjob, Except.map, Except.error.injEq] at hclaim
        exact ⟨row, hrow, hclaim ▸ hjob⟩
  · simp [Fate.result_of_error he, Except.map, Except.bind] at h

/-- So is a look at a job. -/
theorem talks_get (s : Session) (id : Uuid) :
    ∃ f s', Talks (get? id) s ((f.result.map fun a => a.rows.head?).bind claimOfRow)
      [⟨.selectJob id, f⟩] s' := by
  obtain ⟨f, s', ht, -⟩ := talks_fetchOptional s (.selectJob id)
  refine ⟨f, s', ht.inspect fun o s => ?_⟩
  cases o with
  | none => rfl
  | some row =>
    simp only [claimOfRow, run_bind, run_readRow]
    cases jobOfRow row <;> rfl

/-- What a count makes of its row. -/
def countOfRow (row : Row) : Except Failure Int :=
  match row.cell "count" with
  | .int n => .ok n
  | _ => .error (.error (.database unexpectedNull))

/-- And so is counting the jobs that wait. -/
theorem talks_pendingCount (s : Session) :
    ∃ f s', Talks pendingCount s (f.firstRow.bind countOfRow) [⟨.countPending, f⟩] s' := by
  obtain ⟨f, s', ht, -⟩ := talks_fetchOne s .countPending
  refine ⟨f, s', ht.inspect fun row s => ?_⟩
  unfold countOfRow
  cases row.cell "count" <;> rfl

/-- Where the threshold gives no point in time, nothing is handed over to take stuck jobs back. -/
theorem run_rescue_of_error {s : Session} {olderThan : Nat} {e : Failure}
    (h : cutoff s.now olderThan = .error e) : (rescue olderThan).run s = (.error e, s) := by
  have hnow : now.run s = (.ok s.now, s) := rfl
  simp only [rescue, run_bind, hnow, h, run_throw]

/-- Otherwise one statement is handed over, and there is no crash.  (It may wake the workers.) -/
theorem run_rescue_of_ok {s : Session} {olderThan : Nat} {before : Instant}
    (h : cutoff s.now olderThan = .ok before) :
    ∃ r f s', (rescue olderThan).run s = (r, s') ∧
      s'.log = s.log ++ [⟨.rescueJobs s.now before, f⟩] ∧ r ≠ .error .crash := by
  have hnow : now.run s = (.ok s.now, s) := rfl
  obtain ⟨f, s', ht, -⟩ := talks_execute s (.rescueJobs s.now before)
  simp only [rescue, run_bind, hnow, h, run_pure, ht.run]
  rcases f.answer_cases with ⟨a, rfl⟩ | ⟨e, he, -⟩
  · have hcount : (Fate.answered a).result.map Answer.affected = .ok a.affected := rfl
    rw [hcount]
    dsimp only
    by_cases hpositive : 0 < a.affected
    · rw [if_pos hpositive]
      exact ⟨.ok a.affected, .answered a, { s' with woke := true }, rfl, ht.log, by simp⟩
    · rw [if_neg hpositive]
      exact ⟨.ok a.affected, .answered a, s', rfl, ht.log, by simp⟩
  · rw [Fate.result_of_error he]
    exact ⟨.error (.error (.database e)), f, s', rfl, ht.log, by simp⟩

end VideoProbe.Queue
