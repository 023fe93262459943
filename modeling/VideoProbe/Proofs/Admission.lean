import VideoProbe.Admission
import VideoProbe.Proofs.Bracket
import VideoProbe.Proofs.Queue
import VideoProbe.Proofs.Stored

/-!
# Admission is atomic

A job is admitted together with its mapping or not at all.  `Lawful` says what that means for the
statements of an admission, whatever the database answers to them: the job is inserted only if the
UUID is not taken, the commit is sent only if the job and its mapping are both there, and the client
is told that its UUID is taken if and only if it is.

The database is trusted in one point: the row that it gives back for an inserted job is what was
inserted (`Echoes`).
-/

namespace VideoProbe

open VideoProbe.Database

namespace Database

/-! ## Changed errors -/

/-- A failure with its error changed. -/
def Failure.change (g : ServiceError → ServiceError) : Failure → Failure
  | error e => error (g e)
  | crash => crash

/-- An operation whose errors are changed talks as before. -/
theorem Talks.mapError {op : Operation α} {s s' : Session} {r : Except Failure α}
    {xs : List Exchange} (g : ServiceError → ServiceError) (h : Talks op s r xs s') :
    Talks (Database.mapError g op) s (r.mapError (Failure.change g)) xs s' := by
  refine h.attempted.inspect (g := fun r => r.mapError (Failure.change g)) fun r s => ?_
  rcases r with (_ | _) | _ <;> rfl

/-! ## The mapping -/

/-- The job that a row of the mappings names, if there is a row. -/
def mappedJob : Option Row → Except Failure (Option Uuid)
  | none => .ok none
  | some row =>
    match row.cell "job_id" with
    | .uuid id => .ok (some id)
    | _ => .error (.error (.database unexpectedNull))

/-- The job in the first row of the mappings that a statement gave. -/
def Fate.mapping (f : Fate) : Except Failure (Option Uuid) :=
  (f.result.map fun a => a.rows.head?).bind mappedJob

/-- A look into the mapping finds nothing, a job, or a fault of the database.  A row without the
UUID of a job is a fault, too. -/
theorem Fate.mapping_cases (f : Fate) :
    (f.mapping = .ok none ∧ f.isAnswered = true ∧ f.row? = none) ∨
      (∃ row id, f.mapping = .ok (some id) ∧ f.row? = some row ∧
        row.cell "job_id" = .uuid id) ∨
      (∃ e, f.mapping = .error (.error (.database e)) ∧
        ∀ row, f.row? = some row → ∀ id, row.cell "job_id" ≠ .uuid id) := by
  rcases f.answer_cases with ⟨a, rfl⟩ | ⟨e, he, hf⟩
  · have hm : (Fate.answered a).mapping = mappedJob a.rows.head? := rfl
    rw [hm]
    cases hrow : a.rows.head? with
    | none => exact Or.inl ⟨rfl, rfl, hrow⟩
    | some row =>
      by_cases hid : ∃ id, row.cell "job_id" = .uuid id
      · obtain ⟨id, hid⟩ := hid
        exact Or.inr (Or.inl ⟨row, id, by simp [mappedJob, hid], hrow, hid⟩)
      · -- A row was found, and it names no job.
        refine Or.inr (Or.inr ⟨unexpectedNull, ?_, ?_⟩)
        · unfold mappedJob
          dsimp only
          split
          · rename_i id h
            exact absurd ⟨id, h⟩ hid
          · rfl
        · intro row' hrow' id h
          cases hrow.symm.trans hrow'
          exact hid ⟨id, h⟩
  · refine Or.inr (Or.inr ⟨e, ?_, ?_⟩)
    · simp [mapping, result_of_error he, Except.map, Except.bind]
    · intro row hrow
      cases f <;> simp_all [row?, isAnswered]

end Database

/-- A look into the mapping is one statement. -/
theorem Mapping.talks_find (s : Session) (uuid : Uuid) :
    ∃ f s', Talks (Mapping.find? uuid) s f.mapping [⟨.selectMapping uuid, f⟩] s' ∧
      (s.connected = true → ∀ e, f ≠ .unsent e) := by
  obtain ⟨f, s', ht, hsent⟩ := talks_fetchOptional s (.selectMapping uuid)
  refine ⟨f, s', ht.inspect (fun o s => ?_), hsent⟩
  cases o with
  | none => rfl
  | some row =>
    unfold mappedJob
    dsimp only
    cases row.cell "job_id" <;> rfl

/-- And so is an insertion into it; a duplicate is told from other faults. -/
theorem Mapping.talks_insertWithin (s : Session) (uuid jobId : Uuid) :
    ∃ f s', Talks (Mapping.insertWithin uuid jobId) s
        ((f.result.map fun _ => ()).mapError (Failure.change fun e => e.orDuplicate uuid))
        [⟨.insertMapping uuid jobId, f⟩] s' ∧
      (s.connected = true → ∀ e, f ≠ .unsent e) := by
  obtain ⟨f, s', ht, hsent⟩ := talks_execute s (.insertMapping uuid jobId)
  refine ⟨f, s', ?_, hsent⟩
  have h := (ht.mapError fun e => e.orDuplicate uuid).inspect
    (k := fun _ => (pure () : Operation Unit)) (g := fun _ => .ok ()) (fun _ _ => rfl)
  have hr : ((f.result.map Answer.affected).mapError
      (Failure.change fun e => e.orDuplicate uuid)).bind (fun _ => .ok ()) =
      (f.result.map fun _ => ()).mapError (Failure.change fun e => e.orDuplicate uuid) := by
    cases f.result <;> rfl
  exact hr ▸ h

namespace Admission

/-- The job that is inserted for some arguments. -/
def newJob (args : InfoArgs) : NewJob :=
  .ofArgs .info args.toJson

/-! ## The body of the transaction -/

/-- How the body of the transaction may go. -/
inductive StoreCourse (args : InfoArgs) : Except Failure Job → List Exchange → Prop
  | notLooked {f : Fate} {e : DatabaseError}
      (hrow : ∀ row, f.row? = some row → ∀ id, row.cell "job_id" ≠ .uuid id)
      (hsent : ∀ e, f ≠ .unsent e) :
      StoreCourse args (.error (.error (.database e))) [⟨.selectMapping args.uuid, f⟩]
  | taken {f : Fate} {row : Row} {id : Uuid} (hrow : f.row? = some row)
      (hid : row.cell "job_id" = .uuid id) (hsent : ∀ e, f ≠ .unsent e) :
      StoreCourse args (.error (.error (.duplicateUuid args.uuid)))
        [⟨.selectMapping args.uuid, f⟩]
  | notInserted {id : Uuid} {t : Instant} {f g : Fate} {e : Failure} (hf : f.isAnswered = true)
      (hrow : f.row? = none) (hg : g.job = .error e) (hsent : ∀ e, g ≠ .unsent e) :
      StoreCourse args (.error e)
        [⟨.selectMapping args.uuid, f⟩, ⟨.insertJob id (newJob args) t, g⟩]
  | notMapped {id : Uuid} {t : Instant} {f g k : Fate} {j : Job} {e : DatabaseError}
      (hf : f.isAnswered = true) (hrow : f.row? = none) (hg : g.job = .ok j)
      (hk : k.answer = .error e) (hsent : ∀ e, k ≠ .unsent e) :
      StoreCourse args (.error (.error ((ServiceError.database e).orDuplicate args.uuid)))
        [⟨.selectMapping args.uuid, f⟩, ⟨.insertJob id (newJob args) t, g⟩,
          ⟨.insertMapping args.uuid j.id, k⟩]
  | stored {id : Uuid} {t : Instant} {f g k : Fate} {j : Job}
      (hf : f.isAnswered = true) (hrow : f.row? = none) (hg : g.job = .ok j)
      (hk : k.isAnswered = true) :
      StoreCourse args (.ok j)
        [⟨.selectMapping args.uuid, f⟩, ⟨.insertJob id (newJob args) t, g⟩,
          ⟨.insertMapping args.uuid j.id, k⟩]

/-- The body itself sends no commit. -/
theorem StoreCourse.not_commit {args : InfoArgs} {r : Except Failure Job} {ys : List Exchange}
    (h : StoreCourse args r ys) : ∀ x ∈ ys, x.statement ≠ .commit := by
  cases h <;> simp

/-- Storing takes one of five courses: the look into the mapping fails or finds a job, one of the
two insertions fails, or all goes well. -/
theorem talks_store (args : InfoArgs) (s : Session) (hc : s.connected = true) :
    ∃ r ys s', Talks (store args) s r ys s' ∧ StoreCourse args r ys := by
  obtain ⟨f, s1, hfind, hfsent⟩ := Mapping.talks_find s args.uuid
  -- One call after the other, and each goes on only where the one before went well.
  rcases f.mapping_cases with
    ⟨hm, hf, hrow⟩ | ⟨row, id, hm, hrow, hid⟩ | ⟨e, hm, hrow⟩
  · rw [hm] at hfind
    have hc1 := hfind.connected_of_answered hf
    obtain ⟨id, t, g, s2, hinsert, hgsent⟩ := Queue.talks_insertWithin s1 (newJob args)
    cases hg : g.job with
    | error e =>
      rw [hg] at hinsert
      exact ⟨_, _, s2, hfind.bind hinsert.bind_error, .notInserted hf hrow hg (hgsent hc1)⟩
    | ok j =>
      rw [hg] at hinsert
      have hc2 := hinsert.connected_of_answered (Fate.row_of_job hg).1
      obtain ⟨k, s3, hmap, hksent⟩ := Mapping.talks_insertWithin s2 args.uuid j.id
      rcases k.answer_cases with ⟨a, rfl⟩ | ⟨e, he, -⟩
      · exact ⟨.ok j, _, s3, hfind.bind (hinsert.bind (hmap.bind (.silent rfl))),
          .stored hf hrow hg rfl⟩
      · rw [Fate.result_of_error he] at hmap
        exact ⟨_, _, s3, hfind.bind (hinsert.bind hmap.bind_error),
          .notMapped hf hrow hg he (hksent hc2)⟩
  · rw [hm] at hfind
    exact ⟨.error (.error (.duplicateUuid args.uuid)), _, s1, hfind.bind (.silent rfl),
      .taken hrow hid (hfsent hc)⟩
  · rw [hm] at hfind
    exact ⟨_, _, s1, hfind.bind_error, .notLooked hrow (hfsent hc)⟩

/-! ## What is assumed of the database -/

/-- The row is one that a database gives back for a job that it has just stored: what was inserted,
in a new job's state, without failed attempts and without an output. -/
structure Echoes (job : NewJob) (row : Row) : Prop where
  kind : row.cell "kind" = .text job.kind.word
  state : row.cell "state" = .text Job.State.available.word
  args : row.cell "args" = .jsonb job.args
  errors : row.cell "errors" = .jsonb (.array [])
  output : row.cell "output" = .null

/-- A database that gives back what it was given. -/
theorem echoes_rowOfInsert (id : Uuid) (job : NewJob) (t : Instant) :
    Echoes job (rowOfInsert id job t) := by
  constructor <;> simp [rowOfInsert, Row.cell, List.lookup_cons]

/-- A computation that fails can only crash. -/
def OnlyCrashes (r : Except Failure α) : Prop :=
  r = .error .crash ∨ ∃ a, r = .ok a

/-- Where the first part can only crash, it is enough to look at a crash and at what follows. -/
theorem OnlyCrashes.bind {x : Except Failure α} {f : α → Except Failure β}
    {P : Except Failure β → Prop} (h : OnlyCrashes x) (hcrash : P (.error .crash))
    (hok : ∀ a, P (f a)) : P (x >>= f) := by
  rcases h with rfl | ⟨a, rfl⟩
  · exact hcrash
  · exact hok a

theorem onlyCrashes_uuidColumn (row : Row) (n : String) : OnlyCrashes (uuidColumn row n) := by
  unfold uuidColumn
  split
  · exact Or.inr ⟨_, rfl⟩
  · exact Or.inl rfl

theorem onlyCrashes_intColumn (row : Row) (n : String) : OnlyCrashes (intColumn row n) := by
  unfold intColumn
  split
  · exact Or.inr ⟨_, rfl⟩
  · exact Or.inl rfl

theorem onlyCrashes_timeColumn (row : Row) (n : String) : OnlyCrashes (timeColumn row n) := by
  unfold timeColumn
  split
  · exact Or.inr ⟨_, rfl⟩
  · exact Or.inl rfl

theorem onlyCrashes_optionalTimeColumn (row : Row) (n : String) :
    OnlyCrashes (optionalTimeColumn row n) := by
  unfold optionalTimeColumn
  split
  · exact Or.inr ⟨_, rfl⟩
  · exact Or.inr ⟨_, rfl⟩
  · exact Or.inl rfl

/-- A row is read as the job that was inserted, or not at all. -/
def ReadsAs (job : NewJob) (r : Except Failure Job) : Prop :=
  r = .error .crash ∨
    ∃ j, r = .ok j ∧ j.kind = job.kind ∧ j.state = .available ∧ j.args = job.args ∧
      j.errors = [] ∧ j.output = none

/-- Such a row is the job that was inserted, unless a column is null that cannot be. -/
theorem Echoes.readsAs {job : NewJob} {row : Row} (h : Echoes job row) :
    ReadsAs job (jobOfRow row) := by
  have hkind : Job.Kind.ofWord? job.kind.word = some job.kind := by cases job.kind <;> rfl
  have hstate : stateOfWord Job.State.available.word = .available := rfl
  have herrors : (Json.Decoder.list AttemptError.decoder).ofValue (.array []) = .ok [] := rfl
  have h1 : textColumn row "kind" = .ok job.kind.word := by simp [textColumn, h.kind]
  have h2 : jsonColumn row "errors" = .ok (.array []) := by simp [jsonColumn, h.errors]
  have h3 : textColumn row "state" = .ok Job.State.available.word := by simp [textColumn, h.state]
  have h4 : jsonColumn row "args" = .ok job.args := by simp [jsonColumn, h.args]
  have h5 : optionalJsonColumn row "output" = .ok none := by simp [optionalJsonColumn, h.output]
  have hbind {α β : Type} (a : α) (f : α → Except Failure β) : (Except.ok a >>= f) = f a := rfl
  unfold jobOfRow
  simp only [h1, h2, h3, h4, h5, hkind, herrors, hbind, pure, Except.pure]
  -- The other columns are not known, but each of them can be read or makes the reading crash.
  refine (onlyCrashes_uuidColumn row "id").bind (P := ReadsAs job) (Or.inl rfl) fun _ => ?_
  refine (onlyCrashes_intColumn row "attempt").bind (P := ReadsAs job) (Or.inl rfl) fun _ => ?_
  refine (onlyCrashes_intColumn row "max_attempts").bind (P := ReadsAs job) (Or.inl rfl) fun _ => ?_
  refine (onlyCrashes_timeColumn row "created_at").bind (P := ReadsAs job) (Or.inl rfl) fun _ => ?_
  refine (onlyCrashes_timeColumn row "scheduled_at").bind (P := ReadsAs job) (Or.inl rfl)
    fun _ => ?_
  refine (onlyCrashes_optionalTimeColumn row "attempted_at").bind (P := ReadsAs job) (Or.inl rfl)
    fun _ => ?_
  refine (onlyCrashes_optionalTimeColumn row "finalized_at").bind (P := ReadsAs job) (Or.inl rfl)
    fun _ => ?_
  exact Or.inr ⟨_, rfl, rfl, hstate, rfl, rfl, rfl⟩

/-- The view of a job that was just admitted: nothing has happened to it yet. -/
theorem view_of_readsAs {args : InfoArgs} {j : Job} (h : ReadsAs (newJob args) (.ok j)) :
    InfoView.ofJob args.uuid j = .ok {
      uuid := args.uuid, status := .pending, videoPath := args.path, result := none, error := none,
      createdAt := j.createdAt, updatedAt := j.finalizedAt.getD j.createdAt } := by
  rcases h with h | ⟨j', h, hkind, hstate, hargs, herrors, houtput⟩
  · simp at h
  · cases h
    have hread : j.readArgs InfoArgs.arguments = .ok args :=
      InfoArgs.readArgs_of_stored hkind hargs
    have hout : j.outcome = .ok none := by simp [Job.outcome, houtput]
    simp [InfoView.ofJob, hread, hout, hstate, bind, Except.bind, pure, Except.pure,
      InfoStatus.ofState]

/-! ## The law of admission -/

/-- The exchange maps a UUID to a job. -/
def Maps (uuid : Uuid) (x : Exchange) : Prop :=
  ∃ jobId, x.statement = .insertMapping uuid jobId

/-- The database refuses the statement because a unique constraint is violated. -/
def Violates (f : Fate) : Prop :=
  ∃ fault, f = .refused fault ∧ fault.code = "23505"

/-- The UUID is taken: the mappings hold a job for it, or they get one at the same time.  (The
schema rules out a row of the mappings without a job, and such a row is an error of the database.)
-/
def Taken (uuid : Uuid) (main : List Exchange) : Prop :=
  (∃ x ∈ main, x.statement = .selectMapping uuid ∧
    ∃ row id, x.fate.row? = some row ∧ row.cell "job_id" = .uuid id) ∨
  ∃ x ∈ main, (Maps uuid x ∨ x.statement = .commit) ∧ Violates x.fate

/-- The statements of an admission. -/
def plan (args : InfoArgs) (id : Uuid) (inserted : Instant) (jobId : Uuid) : List Statement :=
  [.begin, .selectMapping args.uuid, .insertJob id (newJob args) inserted,
    .insertMapping args.uuid jobId, .commit]

/-- The exchanges of an admission: `main` follows its plan, `rest` is what comes after, and `r` is
what the client is told. -/
structure Lawful (args : InfoArgs) (r : Except Failure InfoView) (main rest : List Exchange) :
    Prop where
  bracket : ∃ id inserted jobId, Bracket (plan args id inserted jobId) main rest
  /-- What is mapped is the job that was inserted. -/
  mapped : ∀ x ∈ main, ∀ uuid jobId, x.statement = .insertMapping uuid jobId →
    ∃ y ∈ main, y.Inserts (newJob args) ∧
      ∃ row j, y.fate.row? = some row ∧ jobOfRow row = .ok j ∧ jobId = j.id
  inserts_only : (∃ x ∈ main, x.Inserts (newJob args)) →
    ∃ x ∈ main, x.Succeeds (.selectMapping args.uuid) ∧ x.fate.row? = none
  commits_only : (∃ x ∈ main, x.statement = .commit) →
    (∃ x ∈ main, x.Inserts (newJob args) ∧ x.fate.isAnswered = true) ∧
      ∃ x ∈ main, Maps args.uuid x ∧ x.fate.isAnswered = true
  ok_iff : (∃ v, r = .ok v) ↔ ∃ x ∈ main, x.Succeeds .commit
  duplicate_iff : r = .error (.error (.duplicateUuid args.uuid)) ↔ Taken args.uuid main
  /-- Every other failure is one of the database, unless the row of the insertion breaks the
  schema. -/
  otherwise : (∃ v, r = .ok v) ∨ r = .error (.error (.duplicateUuid args.uuid)) ∨
    (∃ e, r = .error (.error (.database e))) ∨ r = .error .crash
  crash_iff : r = .error .crash ↔
    ∃ x ∈ main, x.Inserts (newJob args) ∧
      ∃ row, x.fate.row? = some row ∧ jobOfRow row = .error .crash

section Lawful

variable {args : InfoArgs} {main rest : List Exchange}

/-- An error that is looked at again counts as a duplicate if and only if the database refused the
statement because of a unique constraint. -/
theorem orDuplicate_cases {f : Fate} {e : DatabaseError} (h : f.answer = .error e)
    (hsent : ∀ e, f ≠ .unsent e) (uuid : Uuid) :
    (Violates f ∧ (ServiceError.database e).orDuplicate uuid = .duplicateUuid uuid) ∨
      (¬ Violates f ∧ (ServiceError.database e).orDuplicate uuid = .database e) := by
  cases f with
  | unsent c => exact absurd rfl (hsent c)
  | answered a => simp [Fate.answer] at h
  | refused fault =>
    cases h
    -- It is the code of the fault that tells.
    by_cases hcode : fault.code = "23505"
    · exact Or.inl ⟨⟨fault, rfl, hcode⟩, by simp [ServiceError.orDuplicate,
        ServiceError.isUniqueViolation, DatabaseError.isUniqueViolation, uniqueViolationCode,
        hcode]⟩
    · refine Or.inr ⟨?_, by simp [ServiceError.orDuplicate,
        ServiceError.isUniqueViolation, DatabaseError.isUniqueViolation, uniqueViolationCode,
        hcode]⟩
      rintro ⟨fault', hf, hc⟩
      cases hf
      exact hcode hc
  | lost =>
    cases h
    exact Or.inr ⟨by rintro ⟨fault, hf, -⟩; simp at hf, rfl⟩

/-- The transaction could not be opened. -/
theorem lawful_unopened {f : Fate} {e : DatabaseError} (h : f.answer = .error e) :
    Lawful args (.error (.error (.database e))) [⟨.begin, f⟩] [] := by
  constructor
  · exact ⟨Uuid.ofCount 0, ⟨0, 0⟩, Uuid.ofCount 0, Bracket.of_unopened h (by simp [plan])⟩
  all_goals simp [Exchange.Succeeds, Exchange.Inserts, Taken, Maps]

variable {a : Answer} {f g k : Fate} {id : Uuid} {inserted : Instant} {j : Job}

/-- As far as the mapping has been looked into, the transaction is open. -/
theorem open_looked (hf : f.isAnswered = true) :
    Open [⟨.begin, .answered a⟩, ⟨.selectMapping args.uuid, f⟩] :=
  (Open.singleton a).concat (x := ⟨.selectMapping args.uuid, f⟩) hf (by simp) (by simp)

/-- It still is when the job is there. -/
theorem open_inserted (hf : f.isAnswered = true) (hg : g.isAnswered = true) :
    Open [⟨.begin, .answered a⟩, ⟨.selectMapping args.uuid, f⟩,
      ⟨.insertJob id (newJob args) inserted, g⟩] :=
  (open_looked hf).concat (x := ⟨.insertJob id (newJob args) inserted, g⟩) hg (by simp) (by simp)

/-- And when the mapping knows it. -/
theorem open_mapped (hf : f.isAnswered = true) (hg : g.isAnswered = true)
    (hk : k.isAnswered = true) :
    Open [⟨.begin, .answered a⟩, ⟨.selectMapping args.uuid, f⟩,
      ⟨.insertJob id (newJob args) inserted, g⟩, ⟨.insertMapping args.uuid j.id, k⟩] :=
  (open_inserted hf hg).concat (x := ⟨.insertMapping args.uuid j.id, k⟩) hk (by simp) (by simp)

/-- Nothing but a lookup has happened, and it gave no job. -/
theorem lawful_notLooked {e : DatabaseError}
    (hrow : ∀ row, f.row? = some row → ∀ id, row.cell "job_id" ≠ .uuid id)
    (hsent : ∀ e, f ≠ .unsent e) (hz : GivenUp f.keepsConnection rest) :
    Lawful args (.error (.error (.database e)))
      [⟨.begin, .answered a⟩, ⟨.selectMapping args.uuid, f⟩] rest := by
  constructor
  · exact ⟨Uuid.ofCount 0, ⟨0, 0⟩, Uuid.ofCount 0,
      (Open.singleton a).bracket_of_sent (by simp [plan]) (by simp) (by simp) hsent hz⟩
  all_goals simp [Exchange.Succeeds, Exchange.Inserts, Taken, Maps]
  exact hrow

/-- The mappings hold a job for the UUID. -/
theorem lawful_taken {row : Row} (hrow : f.row? = some row) (hid : row.cell "job_id" = .uuid id)
    (hsent : ∀ e, f ≠ .unsent e) (hz : GivenUp f.keepsConnection rest) :
    Lawful args (.error (.error (.duplicateUuid args.uuid)))
      [⟨.begin, .answered a⟩, ⟨.selectMapping args.uuid, f⟩] rest := by
  constructor
  · exact ⟨Uuid.ofCount 0, ⟨0, 0⟩, Uuid.ofCount 0,
      (Open.singleton a).bracket_of_sent (by simp [plan]) (by simp) (by simp) hsent hz⟩
  all_goals simp [Exchange.Succeeds, Exchange.Inserts, Taken, Maps]
  exact ⟨row, hrow, id, hid⟩

/-- The insertion gave no job.  Its row, if there is one, is what was inserted, so the only fault
that it can have is a null. -/
theorem lawful_notInserted {e : Failure} (hf : f.isAnswered = true) (hrow : f.row? = none)
    (hg : g.job = .error e) (hsent : ∀ e, g ≠ .unsent e)
    (hecho : ∀ row, g.row? = some row → Echoes (newJob args) row)
    (hz : GivenUp g.keepsConnection rest) :
    Lawful args (.error e)
      [⟨.begin, .answered a⟩, ⟨.selectMapping args.uuid, f⟩,
        ⟨.insertJob id (newJob args) inserted, g⟩] rest := by
  have hb : Bracket (plan args id inserted (Uuid.ofCount 0))
      [⟨.begin, .answered a⟩, ⟨.selectMapping args.uuid, f⟩,
        ⟨.insertJob id (newJob args) inserted, g⟩] rest :=
    (open_looked hf).bracket_of_sent (by simp [plan]) (by simp) (by simp) hsent hz
  -- A row that echoes what was inserted is read as a job or has a null, and nothing else.
  have hfault : (∃ c, e = .error (.database c)) ∨ e = .crash := by
    rcases Fate.job_error hg with ⟨c, -, hc⟩ | ⟨-, -, hc⟩ | ⟨-, row, hr, hc⟩
    · exact Or.inl ⟨c, hc⟩
    · exact Or.inl ⟨_, hc⟩
    · rcases (hecho row hr).readsAs with h | ⟨j, h, -⟩ <;> simp_all
  constructor
  · exact ⟨id, inserted, _, hb⟩
  · simp
  · simp [Exchange.Succeeds, hf, hrow]
  · simp
  · simp [Exchange.Succeeds]
  · rcases hfault with ⟨c, rfl⟩ | rfl <;> simp [Taken, Maps, hrow]
  · rcases hfault with ⟨c, rfl⟩ | rfl <;> simp
  · simpa [Exchange.Inserts, hg] using Fate.job_crash_iff g

/-- The mapping was not inserted. -/
theorem lawful_notMapped {e : DatabaseError} (hf : f.isAnswered = true) (hrow : f.row? = none)
    (hg : g.job = .ok j) (hk : k.answer = .error e) (hsent : ∀ e, k ≠ .unsent e)
    (hz : GivenUp k.keepsConnection rest) :
    Lawful args (.error (.error ((ServiceError.database e).orDuplicate args.uuid)))
      [⟨.begin, .answered a⟩, ⟨.selectMapping args.uuid, f⟩,
        ⟨.insertJob id (newJob args) inserted, g⟩, ⟨.insertMapping args.uuid j.id, k⟩] rest := by
  obtain ⟨hg', row, hr, hj⟩ := Fate.row_of_job hg
  constructor
  · exact ⟨id, inserted, j.id,
      (open_inserted hf hg').bracket_of_error (by simp [plan]) hk hsent hz⟩
  · simp [Exchange.Inserts, hr, hj]
  · simp [Exchange.Succeeds, hf, hrow]
  · simp
  · simp [Exchange.Succeeds]
  · rcases orDuplicate_cases hk hsent args.uuid with ⟨hv, he⟩ | ⟨hv, he⟩ <;>
      simp [he, Taken, Maps, hrow, hv]
  · rcases orDuplicate_cases hk hsent args.uuid with ⟨hv, he⟩ | ⟨hv, he⟩ <;> simp [he]
  · simpa [Exchange.Inserts] using Fate.safe_of_job hg

/-- However the body fails, giving the transaction up keeps to the law. -/
theorem lawful_abandoned {e : Failure} {ys : List Exchange}
    (h : StoreCourse args (.error e) ys) (hz : GivenUp (connectedAfter true ys) rest)
    (hecho : ∀ x ∈ ys, x.Inserts (newJob args) → ∀ row, x.fate.row? = some row →
      Echoes (newJob args) row) :
    Lawful args (.error e) (⟨.begin, .answered a⟩ :: ys) rest := by
  cases h with
  | notLooked hrow hsent => exact lawful_notLooked hrow hsent hz
  | taken hrow hid hsent => exact lawful_taken hrow hid hsent hz
  | notInserted hf hrow hg hsent =>
    exact lawful_notInserted hf hrow hg hsent (by simpa [Exchange.Inserts] using hecho) hz
  | notMapped hf hrow hg hk hsent => exact lawful_notMapped hf hrow hg hk hsent hz

/-- The commit went well. -/
theorem lawful_committed {b : Answer} (hf : f.isAnswered = true) (hrow : f.row? = none)
    (hg : g.job = .ok j) (hk : k.isAnswered = true)
    (hecho : ∀ row, g.row? = some row → Echoes (newJob args) row) :
    ∃ v, InfoView.ofJob args.uuid j = .ok v ∧ Lawful args (.ok v)
      [⟨.begin, .answered a⟩, ⟨.selectMapping args.uuid, f⟩,
        ⟨.insertJob id (newJob args) inserted, g⟩, ⟨.insertMapping args.uuid j.id, k⟩,
        ⟨.commit, .answered b⟩] [] := by
  obtain ⟨hg', row, hr, hj⟩ := Fate.row_of_job hg
  have hreads : ReadsAs (newJob args) (.ok j) := hj ▸ (hecho row hr).readsAs
  have hanswered : Fate.isAnswered (.answered b) = true := rfl
  -- What has been answered violates nothing, so the UUID was not taken.
  have hunviolated : ∀ f : Fate, f.isAnswered = true → ¬ Violates f := by
    rintro f hf ⟨fault, rfl, -⟩
    exact absurd hf (by simp [Fate.isAnswered])
  refine ⟨_, view_of_readsAs hreads, ?_⟩
  constructor
  · exact ⟨id, inserted, j.id,
      (open_mapped hf hg' hk).bracket_of_closed (Or.inl rfl) (by simp [plan])⟩
  · simp [Exchange.Inserts, hr, hj]
  · simp [Exchange.Succeeds, hf, hrow]
  · simp [Exchange.Inserts, Maps, hg', hk]
  · simp [Exchange.Succeeds, hanswered]
  · simp [Taken, Maps, hrow, hunviolated k hk, hunviolated _ hanswered]
  · simp
  · simpa [Exchange.Inserts] using Fate.safe_of_job hg

/-- The commit did not go well. -/
theorem lawful_uncommitted {e : DatabaseError} {l : Fate} (hf : f.isAnswered = true)
    (hrow : f.row? = none) (hg : g.job = .ok j) (hk : k.isAnswered = true)
    (hl : l.answer = .error e) (hsent : ∀ e, l ≠ .unsent e) (hz : GivenUp l.keepsConnection rest) :
    Lawful args (.error (.error ((ServiceError.database e).orDuplicate args.uuid)))
      [⟨.begin, .answered a⟩, ⟨.selectMapping args.uuid, f⟩,
        ⟨.insertJob id (newJob args) inserted, g⟩, ⟨.insertMapping args.uuid j.id, k⟩,
        ⟨.commit, l⟩] rest := by
  obtain ⟨hg', row, hr, hj⟩ := Fate.row_of_job hg
  have hunviolated : ¬ Violates k := by
    rintro ⟨fault, rfl, -⟩
    exact absurd hk (by simp [Fate.isAnswered])
  -- Whether it counts as a duplicate is settled by the commit, as nothing before it was violated.
  constructor
  · exact ⟨id, inserted, j.id,
      (open_mapped hf hg' hk).bracket_of_error (by simp [plan]) hl hsent hz⟩
  · simp [Exchange.Inserts, hr, hj]
  · simp [Exchange.Succeeds, hf, hrow]
  · simp [Exchange.Inserts, Maps, hg', hk]
  · simp [Exchange.Succeeds, Fate.isAnswered_of_error hl]
  · rcases orDuplicate_cases hl hsent args.uuid with ⟨hv, he⟩ | ⟨hv, he⟩ <;>
      simp [he, Taken, Maps, hrow, hv, hunviolated]
  · rcases orDuplicate_cases hl hsent args.uuid with ⟨hv, he⟩ | ⟨hv, he⟩ <;> simp [he]
  · simpa [Exchange.Inserts] using Fate.safe_of_job hg

end Lawful

/-- The way to the end of an admission that fails before its commit. -/
theorem talks_abandoned (args : InfoArgs) {s s1 s2 : Session} {a : Answer} {e : Failure}
    {ys : List Exchange} (hb : Talks beginTransaction s (.ok ()) [⟨.begin, .answered a⟩] s1)
    (hy : Talks (store args) s1 (.error e) ys s2) :
    ∃ zs s', Talks (submit args) s (.error e) (⟨.begin, .answered a⟩ :: (ys ++ zs)) s' ∧
      GivenUp (connectedAfter true ys) zs := by
  obtain ⟨zs, s', hz, hgiven⟩ := talks_abandon s2
  have hconn : s1.connected = true := hb.connected
  rw [hy.connected, hconn] at hgiven
  have hthrow : Talks (throw e : Operation InfoView) s' (.error e) [] s' := .silent rfl
  have hall : Talks (submit args) s (.error e) ([⟨.begin, .answered a⟩] ++ (ys ++ (zs ++ []))) s' :=
    hb.bind (hy.attempted.bind (hz.bind hthrow))
  rw [List.append_nil] at hall
  exact ⟨zs, s', hall, hgiven⟩

/-- The way to the end of an admission whose body went well. -/
theorem run_committed (args : InfoArgs) {s s1 s2 : Session} {a : Answer} {j : Job}
    {ys : List Exchange} (hb : Talks beginTransaction s (.ok ()) [⟨.begin, .answered a⟩] s1)
    (hy : Talks (store args) s1 (.ok j) ys s2) :
    ∃ r zs s', ClosedBy .commit (connectedAfter true ys) r zs ∧
      (submit args).run s =
        ((r.mapError (Failure.change fun e => e.orDuplicate args.uuid)).bind fun _ =>
          (InfoView.ofJob args.uuid j).mapError .error, s') ∧
      s'.log = s.log ++ (⟨.begin, .answered a⟩ :: (ys ++ zs)) ∧
      (s'.woke = true ↔ s.woke = true ∨ r = .ok ()) := by
  obtain ⟨r, zs, s3, hz, hclosed⟩ := talks_close s2 .commit
  have hconn : s1.connected = true := hb.connected
  rw [hy.connected, hconn] at hclosed
  have ht := hb.bind (f := fun _ => attempted (store args)) hy.attempted
  have hm := hz.mapError fun e => e.orDuplicate args.uuid
  have hlog : s3.log = s.log ++ (⟨.begin, .answered a⟩ :: (ys ++ zs)) := by
    rw [hz.log, ht.log, List.append_assoc]
    rfl
  have hwoke : s3.woke = s.woke := hz.woke.trans ht.woke
  -- The body is over in the session `s2`; what is left is the commit, the word and the view.
  have hrun : (submit args).run s = ((do
      mapError (fun e => e.orDuplicate args.uuid) (closeTransaction .commit)
      wakeWorkers
      lift (InfoView.ofJob args.uuid j)) : Operation InfoView).run s2 := by
    unfold submit
    rw [run_bind, hb.run]
    dsimp only
    rw [run_bind, hy.attempted.run]
  rw [run_bind, hm.run] at hrun
  cases r with
  | error e => exact ⟨_, zs, s3, hclosed, hrun, hlog, by simp [hwoke]⟩
  | ok u =>
    refine ⟨_, zs, { s3 with woke := true }, hclosed, hrun.trans ?_, hlog, by simp⟩
    cases InfoView.ofJob args.uuid j <;> rfl

/-- **Admission is atomic.**  From any session and whatever the database answers, as long as it
gives back what it has inserted: an admission keeps to the law, and the workers are woken if and
only if it was committed. -/
theorem submit_lawful (args : InfoArgs) (s : Session) :
    ∃ r main rest s', (submit args).run s = (r, s') ∧ s'.log = s.log ++ (main ++ rest) ∧
      (s'.woke = true ↔ s.woke = true ∨ ∃ x ∈ main, x.Succeeds .commit) ∧
      ((∀ x ∈ main, x.Inserts (newJob args) → ∀ row, x.fate.row? = some row →
          Echoes (newJob args) row) →
        Lawful args r main rest) := by
  obtain ⟨f, s1, hb⟩ := talks_begin s
  rcases f.answer_cases with ⟨a, rfl⟩ | ⟨e, he, -⟩
  · have hconn : s1.connected = true := hb.connected
    obtain ⟨r, ys, s2, hy, hcourse⟩ := talks_store args s1 hconn
    cases r with
    | error e =>
      obtain ⟨zs, s', ht, hz⟩ := talks_abandoned args hb hy
      refine ⟨_, _, zs, s', ht.run, ht.log, ?_, fun hecho => lawful_abandoned hcourse hz ?_⟩
      · have hnone : ¬ ∃ x ∈ (⟨.begin, .answered a⟩ :: ys : List Exchange), x.Succeeds .commit := by
          rintro ⟨x, hx, hs, -⟩
          rcases List.mem_cons.1 hx with rfl | hx
          · simp at hs
          · exact hcourse.not_commit x hx hs
        rw [ht.woke]
        exact ⟨Or.inl, fun h => h.resolve_right hnone⟩
      · exact fun x hx => hecho x (List.mem_cons_of_mem _ hx)
    | ok j =>
      obtain ⟨r, zs, s', hclosed, hrun, hlog, hwoke⟩ := run_committed args hb hy
      cases hcourse with
      | @stored id t f g k j hf hrow hg hk =>
        -- The mapping was inserted, so there is still a connection and the commit is sent.
        have hkept : connectedAfter true [⟨.selectMapping args.uuid, f⟩,
            ⟨.insertJob id (newJob args) t, g⟩, ⟨.insertMapping args.uuid j.id, k⟩] = true :=
          Fate.keepsConnection_of_answered hk
        rw [hkept] at hclosed
        cases hclosed with
        | succeeded b =>
          refine ⟨_, [⟨.begin, .answered a⟩, _, _, _, ⟨.commit, .answered b⟩], [], s', hrun, hlog,
            ?_, fun hecho => ?_⟩
          · rw [hwoke]
            simp [Exchange.Succeeds, Fate.isAnswered]
          · obtain ⟨v, hv, hlawful⟩ := lawful_committed (a := a) (b := b)
              hf hrow hg hk (by simpa [Exchange.Inserts] using hecho)
            rw [hv]
            exact hlawful
        | @failed l e zs hl hsent hz =>
          refine ⟨_, [⟨.begin, .answered a⟩, _, _, _, ⟨.commit, l⟩], zs, s', hrun, hlog, ?_,
            fun _ => lawful_uncommitted hf hrow hg hk hl (hsent rfl) hz⟩
          rw [hwoke]
          simp [Exchange.Succeeds, Fate.isAnswered_of_error hl]
  · rw [Fate.result_of_error he] at hb
    have ht : Talks (submit args) s _ _ s1 := hb.bind_error
    refine ⟨_, [⟨.begin, f⟩], [], s1, ht.run, ht.log, ?_, fun _ => lawful_unopened he⟩
    simp [ht.woke, Exchange.Succeeds]

/-- A database that gives back what it is asked to store. -/
def granting (args : InfoArgs) : Session where
  link := .up
  script := [{ reply := .rows [] },
    { reply := .rows [rowOfInsert (Uuid.ofCount 1) (newJob args) ⟨0, 0⟩] },
    { reply := .affected 1 }]
  now := ⟨0, 0⟩

/-- Where the database does give back what it is asked to store, an admission is committed. -/
theorem submit_lawful_granted :
    ∃ v main rest s',
      (submit ⟨Uuid.ofCount 2, "/a.mp4", none, none⟩).run
        (granting ⟨Uuid.ofCount 2, "/a.mp4", none, none⟩) = (.ok v, s') ∧
      s'.log = main ++ rest ∧ s'.woke = true ∧
      Lawful ⟨Uuid.ofCount 2, "/a.mp4", none, none⟩ (.ok v) main rest := by
  generalize hargs : (⟨Uuid.ofCount 2, "/a.mp4", none, none⟩ : InfoArgs) = args
  obtain ⟨r, main, rest, s', hrun, hlog, hwoke, hlawful⟩ := submit_lawful args (granting args)
  have hrows : ((submit args).run (granting args)).2.log.filterMap (·.fate.row?) =
      [rowOfInsert (Uuid.ofCount 1) (newJob args) ⟨0, 0⟩] := hargs ▸ rfl
  have hwoken : ((submit args).run (granting args)).2.woke = true := hargs ▸ rfl
  rw [hrun] at hrows hwoken
  -- The insertion is the one statement with a row, and the row is what was inserted.
  have hlaw := hlawful fun x hx _ row hrow => by
    have hmem : row ∈ s'.log.filterMap (·.fate.row?) :=
      List.mem_filterMap.2 ⟨x, hlog ▸ List.mem_append_right _ (List.mem_append_left _ hx), hrow⟩
    rw [hrows, List.mem_singleton] at hmem
    exact hmem ▸ echoes_rowOfInsert _ _ _
  have hcommitted := (hwoke.1 hwoken).resolve_left (by simp [granting])
  obtain ⟨v, rfl⟩ := hlaw.ok_iff.2 hcommitted
  exact ⟨v, main, rest, s', hrun, hlog, hwoken, hlaw⟩
end Admission

end VideoProbe
