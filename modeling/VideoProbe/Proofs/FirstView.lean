import VideoProbe.Proofs.Admission

/-!
# The first view of a job

A client that has its job admitted is answered with a view of it, and when it asks for the status of
its UUID it is answered with a view too.  The first is made from the row that the insertion gives
back, the second from the row that is found later; as long as nothing has happened to the job, the
two rows are the same and so are the views (`submit_then_status`).

What carries this is that the arguments are stored in full: whichever of them are there, they are
read back as they were admitted (`InfoArgs.restores`).  The rest says what an admission that is
committed answers (`run_submit`) and what a question for the status sends (`talks_status`).
-/

namespace VideoProbe

open VideoProbe.Database

namespace Database.Statement

/-- The statement changes nothing: it is a query. -/
def IsQuery (st : Statement) : Prop :=
  ∃ rest, st.text = "SELECT " ++ rest

theorem isQuery_selectMapping (uuid : Uuid) : (selectMapping uuid).IsQuery := by
  have htext : (selectMapping uuid).text =
      "SELECT job_id FROM uuid_job_mapping WHERE uuid = $1" := rfl
  refine ⟨"job_id FROM uuid_job_mapping WHERE uuid = $1", ?_⟩
  simp only [htext, String.reduceAppend]

theorem isQuery_selectJob (id : Uuid) : (selectJob id).IsQuery := by
  have htext : (selectJob id).text =
      "SELECT " ++ jobColumns ++ " FROM job_queue WHERE id = $1" := rfl
  exact ⟨jobColumns ++ " FROM job_queue WHERE id = $1", htext.trans String.append_assoc⟩

end Database.Statement

namespace Admission

/-! ## Rows of new jobs -/

/-- The row of a job that was inserted and that nothing has happened to: it holds the parameters of
the insertion, the time at which the database says the job was created, and otherwise what a new job
starts with. -/
structure Untouched (id : Uuid) (job : NewJob) (created : Instant) (row : Row) : Prop
    extends Echoes job row where
  id : row.cell "id" = .uuid id
  attempt : row.cell "attempt" = .int 0
  maxAttempts : row.cell "max_attempts" = .int job.maxAttempts
  createdAt : row.cell "created_at" = .time created
  scheduledAt : ∃ t, row.cell "scheduled_at" = .time t
  attemptedAt : row.cell "attempted_at" = .null
  finalizedAt : row.cell "finalized_at" = .null

/-- The row of an insertion is untouched. -/
theorem untouched_rowOfInsert (id : Uuid) (job : NewJob) (t : Instant) :
    Untouched id job t (rowOfInsert id job t) where
  toEchoes := echoes_rowOfInsert id job t
  id := by simp [rowOfInsert, Row.cell]
  attempt := by simp [rowOfInsert, Row.cell, List.lookup_cons]
  maxAttempts := by simp [rowOfInsert, Row.cell, List.lookup_cons]
  createdAt := by simp [rowOfInsert, Row.cell, List.lookup_cons]
  scheduledAt := ⟨t, by simp [rowOfInsert, Row.cell, List.lookup_cons]⟩
  attemptedAt := by simp [rowOfInsert, Row.cell, List.lookup_cons]
  finalizedAt := by simp [rowOfInsert, Row.cell, List.lookup_cons]

/-- A new job, as it waits for its first attempt. -/
def waiting (id : Uuid) (job : NewJob) (created scheduled : Instant) : Job where
  id := id
  kind := job.kind
  state := .available
  args := job.args
  output := none
  errors := []
  attempt := 0
  maxAttempts := job.maxAttempts
  createdAt := created
  scheduledAt := scheduled
  attemptedAt := none
  finalizedAt := none

/-- The job of such a row. -/
theorem Untouched.job {id : Uuid} {job : NewJob} {created : Instant} {row : Row}
    (h : Untouched id job created row) :
    ∃ scheduled, jobOfRow row = .ok (waiting id job created scheduled) := by
  obtain ⟨scheduled, hscheduled⟩ := h.scheduledAt
  have hkind : Job.Kind.ofWord? job.kind.word = some job.kind := by cases job.kind <;> rfl
  have herrors : (Json.Decoder.list AttemptError.decoder).ofValue (.array []) = .ok [] := rfl
  have hbind {α β : Type} (a : α) (f : α → Except Failure β) : (Except.ok a >>= f) = f a := rfl
  refine ⟨scheduled, ?_⟩
  simp only [jobOfRow, textColumn, jsonColumn, optionalJsonColumn, uuidColumn, intColumn, timeColumn,
    optionalTimeColumn, h.kind, h.errors, h.id, h.state, h.args, h.output, h.attempt, h.maxAttempts,
    h.createdAt, hscheduled, h.attemptedAt, h.finalizedAt, hkind, herrors, hbind]
  rfl

/-- What a client sees of a job that nothing has happened to. -/
def firstView (args : InfoArgs) (created : Instant) : InfoView where
  uuid := args.uuid
  status := .pending
  videoPath := args.path
  result := none
  error := none
  createdAt := created
  updatedAt := created

/-- The row of a job that was admitted and that nothing has happened to shows this view. -/
theorem Untouched.view {id : Uuid} {args : InfoArgs} {created : Instant} {row : Row}
    (h : Untouched id (newJob args) created row) :
    ∃ j, jobOfRow row = .ok j ∧ InfoView.ofJob args.uuid j = .ok (firstView args created) := by
  obtain ⟨scheduled, hj⟩ := h.job
  have hreads : ReadsAs (newJob args) (.ok (waiting id (newJob args) created scheduled)) :=
    hj ▸ h.toEchoes.readsAs
  exact ⟨_, hj, view_of_readsAs hreads⟩

/-! ## An admission that is committed -/

/-- The only job that the body of an admission inserts is that of its arguments. -/
theorem StoreCourse.inserts {args : InfoArgs} {r : Except Failure Job} {ys : List Exchange}
    (h : StoreCourse args r ys) :
    ∀ x ∈ ys, ∀ id new t, x.statement = .insertJob id new t → new = newJob args := by
  cases h <;> simp +contextual [eq_comm]

/-- A body that went well has inserted the job that it answers with. -/
theorem StoreCourse.stored_mem {args : InfoArgs} {j : Job} {ys : List Exchange}
    (h : StoreCourse args (.ok j) ys) :
    ∃ id t f, ⟨.insertJob id (newJob args) t, f⟩ ∈ ys ∧ f.job = .ok j := by
  cases h with
  | @stored id t f g k j hf hrow hg hk => exact ⟨id, t, g, by simp, hg⟩

/-- **What an admission answers.**  It inserts no job but that of its arguments, and once it is
committed it answers with the view of the job that the insertion gave back. -/
theorem run_submit (args : InfoArgs) (s : Session) :
    ∃ r xs s', (submit args).run s = (r, s') ∧ s'.log = s.log ++ xs ∧
      (∀ x ∈ xs, ∀ id new t, x.statement = .insertJob id new t → new = newJob args) ∧
      ((∃ x ∈ xs, x.Succeeds .commit) → ∃ id t f j, ⟨.insertJob id (newJob args) t, f⟩ ∈ xs ∧
        f.job = .ok j ∧ r = (InfoView.ofJob args.uuid j).mapError .error) := by
  obtain ⟨f, s1, hb⟩ := talks_begin s
  rcases f.answer_cases with ⟨a, rfl⟩ | ⟨e, he, -⟩
  · have hconn : s1.connected = true := hb.connected
    obtain ⟨r, ys, s2, hy, hcourse⟩ := talks_store args s1 hconn
    -- Whatever follows the body inserts nothing more.
    have hinserts : ∀ zs : List Exchange,
        (∀ z ∈ zs, z.statement = .commit ∨ z.statement = .rollback) →
        ∀ x ∈ (⟨.begin, .answered a⟩ :: (ys ++ zs) : List Exchange), ∀ id new t,
          x.statement = .insertJob id new t → new = newJob args := by
      intro zs hzs x hx id new t hst
      rcases List.mem_cons.1 hx with rfl | hx
      · simp at hst
      · rcases List.mem_append.1 hx with hx | hx
        · exact hcourse.inserts x hx id new t hst
        · rcases hzs x hx with h | h <;> simp [h] at hst
    cases r with
    | error e =>
      obtain ⟨zs, s', ht, hz⟩ := talks_abandoned args hb hy
      have hrollback := hz.rollback_of_mem
      refine ⟨_, _, s', ht.run, ht.log, hinserts zs fun z hz => Or.inr (hrollback z hz), ?_⟩
      rintro ⟨x, hx, hst, -⟩
      exfalso
      rcases List.mem_cons.1 hx with rfl | hx
      · simp at hst
      · rcases List.mem_append.1 hx with hx | hx
        · exact hcourse.not_commit x hx hst
        · rw [hrollback x hx] at hst
          simp at hst
    | ok j =>
      obtain ⟨r, zs, s', hclosed, hrun, hlog, -⟩ := run_committed args hb hy
      refine ⟨_, _, s', hrun, hlog, hinserts zs hclosed.statement_of_mem, ?_⟩
      rintro ⟨x, hx, hs⟩
      have hcommitted : ∃ z ∈ zs, z.Succeeds .commit := by
        rcases List.mem_cons.1 hx with rfl | hx
        · exact absurd hs.1 (by simp)
        · rcases List.mem_append.1 hx with hx | hx
          · exact absurd hs.1 (hcourse.not_commit x hx)
          · exact ⟨x, hx, hs⟩
      obtain rfl := hclosed.ok_of_succeeds (by simp) hcommitted
      obtain ⟨id, t, f, hmem, hj⟩ := hcourse.stored_mem
      exact ⟨id, t, f, j, List.mem_cons_of_mem _ (List.mem_append_left _ hmem), hj, rfl⟩
  · rw [Fate.result_of_error he] at hb
    have ht : Talks (submit args) s _ _ s1 := hb.bind_error
    refine ⟨_, _, s1, ht.run, ht.log, by simp, ?_⟩
    simp [Exchange.Succeeds]

/-! ## A question for the status -/

/-- The view of a job that may have gone. -/
def viewOf (uuid : Uuid) : Option Job → Except Failure InfoView
  | none => .error (.error (.infoNotFound uuid))
  | some j => (InfoView.ofJob uuid j).mapError .error

/-- The view of the job in the first row that a statement gave. -/
def answerOf (uuid : Uuid) (f : Fate) : Except Failure InfoView :=
  ((f.result.map fun a => a.rows.head?).bind Queue.claimOfRow).bind (viewOf uuid)

/-- From a row that is read as a job the view of this job is made. -/
theorem answerOf_row {uuid : Uuid} {f : Fate} {row : Row} {j : Job} (hrow : f.row? = some row)
    (hj : jobOfRow row = .ok j) :
    answerOf uuid f = (InfoView.ofJob uuid j).mapError .error := by
  cases f with
  | answered a =>
    have ha : a.rows.head? = some row := hrow
    simp [answerOf, Fate.result, Fate.answer, Except.map, Except.bind, ha, Queue.claimOfRow, hj,
      viewOf]
  | _ => simp [Fate.row?] at hrow

/-- What is sent for a question: the UUID is looked up, and then the job that it is mapped to. -/
inductive StatusCourse (uuid : Uuid) : Except Failure InfoView → List Exchange → Prop
  | unmapped {f : Fate} {e : Failure} (hf : ∀ id, f.mapping ≠ .ok (some id)) :
      StatusCourse uuid (.error e) [⟨.selectMapping uuid, f⟩]
  | mapped {f g : Fate} {id : Uuid} (hf : f.mapping = .ok (some id)) :
      StatusCourse uuid (answerOf uuid g) [⟨.selectMapping uuid, f⟩, ⟨.selectJob id, g⟩]

/-- Asking for the status takes a look into the mapping, and one at the job if it names one. -/
theorem talks_status (uuid : Uuid) (s : Session) :
    ∃ r xs s', Talks (status uuid) s r xs s' ∧ StatusCourse uuid r xs := by
  obtain ⟨f, s1, hfind, -⟩ := Mapping.talks_find s uuid
  cases hm : f.mapping with
  | error e =>
    rw [hm] at hfind
    exact ⟨_, _, s1, hfind.bind_error, .unmapped (by simp [hm])⟩
  | ok found =>
    rw [hm] at hfind
    cases found with
    | none =>
      have hnone : Talks (throw (.error (.infoNotFound uuid)) : Operation InfoView) s1
          (.error (.error (.infoNotFound uuid))) [] s1 := .silent rfl
      exact ⟨_, _, s1, hfind.bind hnone, .unmapped (by simp [hm])⟩
    | some id =>
      obtain ⟨g, s2, hget⟩ := Queue.talks_get s1 id
      -- What is made of the job sends nothing more, so the look at it is the last exchange.
      have hview := hget.inspect
        (k := fun found => (match found with
          | none => throw (.error (.infoNotFound uuid))
          | some job => lift (InfoView.ofJob uuid job) : Operation InfoView))
        (g := viewOf uuid) (fun found s => by
          cases found with
          | none => rfl
          | some j =>
            dsimp only [viewOf, lift]
            cases InfoView.ofJob uuid j <;> rfl)
      exact ⟨_, _, s2, hfind.bind hview, .mapped hm⟩

/-- A row of the mappings names its job. -/
theorem mapping_of_row {f : Fate} {row : Row} {id : Uuid} (hrow : f.row? = some row)
    (hid : row.cell "job_id" = .uuid id) : f.mapping = .ok (some id) := by
  cases f with
  | answered a =>
    have ha : a.rows.head? = some row := hrow
    simp [Fate.mapping, Fate.result, Fate.answer, Except.map, Except.bind, ha, mappedJob, hid]
  | _ => simp [Fate.row?] at hrow

/-- Asking for a status only asks. -/
theorem StatusCourse.queries {uuid : Uuid} {r : Except Failure InfoView} {xs : List Exchange}
    (h : StatusCourse uuid r xs) : ∀ x ∈ xs, x.statement.IsQuery := by
  have hmapping := Statement.isQuery_selectMapping uuid
  cases h with
  | unmapped hf => simpa using hmapping
  | mapped hf => simpa using ⟨hmapping, Statement.isQuery_selectJob _⟩

/-! ## The same view -/

/-- An admission answers `r` and sends `xs`, and a question for the same UUID answers `q` and sends
`ys`. -/
structure SameView (args : InfoArgs) (r : Except Failure InfoView) (xs : List Exchange)
    (q : Except Failure InfoView) (ys : List Exchange) : Prop where
  /-- What is stored of the arguments is read back as what was admitted. -/
  stored : ∀ x ∈ xs, ∀ id new t, x.statement = .insertJob id new t →
    new.kind = .info ∧ InfoArgs.decoder.ofValue new.args = .ok args
  /-- Where the database gives the inserted row back, and the commit goes well, the client sees the
  job as it was created. -/
  admitted : ∀ created,
    (∀ x ∈ xs, ∀ id t, x.statement = .insertJob id (newJob args) t →
      ∃ row, x.fate.row? = some row ∧ Untouched id (newJob args) created row) →
    (∃ x ∈ xs, x.Succeeds .commit) → r = .ok (firstView args created)
  queries : ∀ y ∈ ys, y.statement.IsQuery
  /-- Where the database finds the mapping and the same row, the client sees the same. -/
  found : ∀ created id,
    (∀ y ∈ ys, y.statement = .selectMapping args.uuid →
      ∃ row, y.fate.row? = some row ∧ row.cell "job_id" = .uuid id) →
    (∀ y ∈ ys, y.statement = .selectJob id →
      ∃ row, y.fate.row? = some row ∧ Untouched id (newJob args) created row) →
    q = .ok (firstView args created)

/-- **The status of a new job** is what its admission answered with, whatever its arguments are. -/
theorem submit_then_status (args : InfoArgs) (s t : Session) :
    ∃ r xs s' q ys t', (submit args).run s = (r, s') ∧ s'.log = s.log ++ xs ∧
      (status args.uuid).run t = (q, t') ∧ t'.log = t.log ++ ys ∧ SameView args r xs q ys := by
  obtain ⟨r, xs, s', hrun, hlog, hinserts, hcommitted⟩ := run_submit args s
  obtain ⟨q, ys, t', ht, hcourse⟩ := talks_status args.uuid t
  refine ⟨r, xs, s', q, ys, t', hrun, hlog, ht.run, ht.log, ?_⟩
  constructor
  · intro x hx id new t hst
    rw [hinserts x hx id new t hst]
    exact ⟨rfl, (InfoArgs.restores args).ofValue⟩
  · intro created hecho hcommit
    obtain ⟨id, t, f, j, hmem, hj, rfl⟩ := hcommitted hcommit
    obtain ⟨row, hrow, huntouched⟩ := hecho _ hmem id t rfl
    obtain ⟨j', hj', hview⟩ := huntouched.view
    -- The job that the admission projects is the one in the row.
    rw [Fate.job_of_row hrow, hj'] at hj
    cases hj
    rw [hview]
    rfl
  · exact hcourse.queries
  · intro created id hmapping hjob
    cases hcourse with
    | unmapped hf =>
      obtain ⟨row, hrow, hid⟩ := hmapping _ List.mem_cons_self rfl
      exact absurd (mapping_of_row hrow hid) (hf id)
    | @mapped f g id' hf =>
      obtain ⟨row, hrow, hid⟩ := hmapping _ List.mem_cons_self rfl
      rw [mapping_of_row hrow hid] at hf
      cases hf
      obtain ⟨row', hrow', huntouched⟩ := hjob ⟨.selectJob id, g⟩ (by simp) rfl
      obtain ⟨j, hj, hview⟩ := huntouched.view
      rw [answerOf_row hrow' hj, hview]
      rfl

/-- A database that holds the mapping and the row of a job that was admitted. -/
def holding (args : InfoArgs) : Session where
  link := .up
  script := [{ reply := .rows [[("job_id", .uuid (Uuid.ofCount 1))]] },
    { reply := .rows [rowOfInsert (Uuid.ofCount 1) (newJob args) ⟨0, 0⟩] }]
  now := ⟨0, 0⟩

/-- Arguments with a token of no bytes at all. -/
def emptyToken : InfoArgs :=
  ⟨Uuid.ofCount 2, "/a.mp4", some "http://b/", some []⟩

/-- It is admitted and found again with an empty token. -/
theorem submit_then_status_emptyToken :
    ((submit emptyToken).run (granting emptyToken)).1 = .ok (firstView emptyToken ⟨0, 0⟩) ∧
      ((status emptyToken.uuid).run (holding emptyToken)).1 = .ok (firstView emptyToken ⟨0, 0⟩) := by
  obtain ⟨r, xs, s', q, ys, t', hrun, hlog, hasked, hfound, h⟩ :=
    submit_then_status emptyToken (granting emptyToken) (holding emptyToken)
  -- Both logs are evaluated, and the hypotheses are read off them.
  have hrow := untouched_rowOfInsert (Uuid.ofCount 1) (newJob emptyToken) ⟨0, 0⟩
  have hxs : xs = [⟨.begin, .answered ⟨[], 0⟩⟩,
      ⟨.selectMapping emptyToken.uuid, .answered ⟨[], 0⟩⟩,
      ⟨.insertJob (Uuid.ofCount 1) (newJob emptyToken) ⟨0, 0⟩,
        .answered ⟨[rowOfInsert (Uuid.ofCount 1) (newJob emptyToken) ⟨0, 0⟩], 1⟩⟩,
      ⟨.insertMapping emptyToken.uuid (Uuid.ofCount 1), .answered ⟨[], 1⟩⟩,
      ⟨.commit, .answered ⟨[], 0⟩⟩] := by
    have hs : s' = ((submit emptyToken).run (granting emptyToken)).2 := by rw [hrun]
    rw [hs] at hlog
    exact hlog.symm
  have hys : ys = [⟨.selectMapping emptyToken.uuid,
        .answered ⟨[[("job_id", .uuid (Uuid.ofCount 1))]], 1⟩⟩,
      ⟨.selectJob (Uuid.ofCount 1),
        .answered ⟨[rowOfInsert (Uuid.ofCount 1) (newJob emptyToken) ⟨0, 0⟩], 1⟩⟩] := by
    have ht : t' = ((status emptyToken.uuid).run (holding emptyToken)).2 := by rw [hasked]
    rw [ht] at hfound
    exact hfound.symm
  rw [hrun, hasked]
  refine ⟨h.admitted ⟨0, 0⟩ ?_ ?_, h.found ⟨0, 0⟩ (Uuid.ofCount 1) ?_ ?_⟩
  · rw [hxs]
    simp only [List.forall_mem_cons, List.not_mem_nil, false_imp_iff, implies_true, and_true,
      reduceCtorEq, true_and, Statement.insertJob.injEq]
    rintro id t ⟨rfl, rfl⟩
    exact ⟨_, rfl, hrow⟩
  · rw [hxs]
    exact ⟨⟨.commit, .answered ⟨[], 0⟩⟩, by simp, rfl, rfl⟩
  · rw [hys]
    simp only [List.forall_mem_cons, List.not_mem_nil, false_imp_iff, implies_true, and_true,
      reduceCtorEq, true_imp_iff]
    exact ⟨_, rfl, rfl⟩
  · rw [hys]
    simp only [List.forall_mem_cons, List.not_mem_nil, false_imp_iff, implies_true, and_true,
      reduceCtorEq, true_and, true_imp_iff]
    exact ⟨_, rfl, hrow⟩

end Admission

end VideoProbe
