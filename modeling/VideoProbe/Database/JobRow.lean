import VideoProbe.Database.Session

/-!
# Jobs in rows

A row of the queue as a job.  The kind must be known and the error history must be one; a state
that is not known counts as pending.  The schema rules out nulls in most columns, so a null there
makes the operation crash.
-/

namespace VideoProbe.Database

/-- The value of a column that cannot be null. -/
def uuidColumn (row : Row) (name : String) : Except Failure Uuid :=
  match row.cell name with
  | .uuid u => .ok u
  | _ => .error .crash

/-- The value of a column that cannot be null. -/
def textColumn (row : Row) (name : String) : Except Failure String :=
  match row.cell name with
  | .text s => .ok s
  | _ => .error .crash

/-- The value of a column that cannot be null. -/
def intColumn (row : Row) (name : String) : Except Failure Int :=
  match row.cell name with
  | .int n => .ok n
  | _ => .error .crash

/-- The value of a column that cannot be null. -/
def jsonColumn (row : Row) (name : String) : Except Failure Json :=
  match row.cell name with
  | .jsonb v => .ok v
  | _ => .error .crash

/-- The value of a column that cannot be null. -/
def timeColumn (row : Row) (name : String) : Except Failure Instant :=
  match row.cell name with
  | .time t => .ok t
  | _ => .error .crash

/-- The value of a column that may be null. -/
def optionalJsonColumn (row : Row) (name : String) : Except Failure (Option Json) :=
  match row.cell name with
  | .jsonb v => .ok (some v)
  | .null => .ok none
  | _ => .error .crash

/-- The value of a column that may be null. -/
def optionalTimeColumn (row : Row) (name : String) : Except Failure (Option Instant) :=
  match row.cell name with
  | .time t => .ok (some t)
  | .null => .ok none
  | _ => .error .crash

/-- The state that a word of the database stands for; an unknown one counts as pending. -/
def stateOfWord (s : String) : Job.State :=
  (Job.State.ofWord? s).getD .pending

/-- The job of a row. -/
def jobOfRow (row : Row) : Except Failure Job := do
  let word ← textColumn row "kind"
  let kind ←
    match Job.Kind.ofWord? word with
    | some k => pure k
    | none => throw (.error (.job ("unknown job kind: " ++ word)))
  let history ← jsonColumn row "errors"
  let errors ←
    match (Json.Decoder.list AttemptError.decoder).ofValue history with
    | .ok errors => pure errors
    | .error r => throw (.error (.job ("malformed error history: " ++ r.message)))
  let id ← uuidColumn row "id"
  let state ← textColumn row "state"
  let args ← jsonColumn row "args"
  let output ← optionalJsonColumn row "output"
  let attempt ← intColumn row "attempt"
  let maxAttempts ← intColumn row "max_attempts"
  let createdAt ← timeColumn row "created_at"
  let scheduledAt ← timeColumn row "scheduled_at"
  let attemptedAt ← optionalTimeColumn row "attempted_at"
  let finalizedAt ← optionalTimeColumn row "finalized_at"
  return { id, kind, state := stateOfWord state, args, output, errors, attempt, maxAttempts,
           createdAt, scheduledAt, attemptedAt, finalizedAt }

/-- The row that the database gives back for a job it has just stored: the values that were sent,
and the defaults of the other columns. -/
def rowOfInsert (id : Uuid) (job : NewJob) (createdAt : Instant) : Row :=
  [("id", .uuid id), ("kind", .text job.kind.word), ("state", .text Job.State.available.word),
    ("args", .jsonb job.args), ("output", .null), ("errors", .jsonb (.array [])),
    ("attempt", .int 0), ("max_attempts", .int job.maxAttempts), ("created_at", .time createdAt),
    ("scheduled_at", .time createdAt), ("attempted_at", .null), ("finalized_at", .null)]

/-- A pure reading of a row as an operation. -/
def readRow (read : Row → Except Failure α) (row : Row) : Operation α :=
  match read row with
  | .ok a => return a
  | .error f => throw f

end VideoProbe.Database
