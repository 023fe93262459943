import VideoProbe.Job.Basic

/-!
# Statements

Every statement that the service sends to the database, as what it is for rather than as text.  A
statement has a text, in which parameters are numbered, and the values of the parameters in that
order.  Nothing that a client sends is ever part of the text.
-/

namespace VideoProbe.Database

/-- The scripts that set up the database, in order. -/
inductive Migration where
  | jobQueue
  | uuidMapping
  deriving DecidableEq, Repr

/-- The scripts in the order in which they run. -/
def Migration.all : List Migration := [jobQueue, uuidMapping]

/-- The version of a script. -/
def Migration.version : Migration → Nat
  | jobQueue => 20261017000000
  | uuidMapping => 20261017000001

/-- The text of a script. -/
def Migration.script : Migration → String
  | jobQueue =>
    "-- Durable job queue shared by the info and webhook workers. CREATE TYPE job_kind AS ENUM " ++
    "('info', 'webhook'); CREATE TYPE job_state AS ENUM ( 'available', 'scheduled', 'pending', " ++
    "'running', 'retryable', 'completed', 'discarded', 'cancelled' ); CREATE TABLE job_queue ( " ++
    "id UUID PRIMARY KEY, kind job_kind NOT NULL, state job_state NOT NULL DEFAULT 'available', " ++
    "args JSONB NOT NULL, output JSONB, errors JSONB NOT NULL DEFAULT '[]'::jsonb, attempt INTEGER " ++
    "NOT NULL DEFAULT 0, max_attempts INTEGER NOT NULL CHECK (max_attempts > 0), created_at " ++
    "TIMESTAMPTZ NOT NULL DEFAULT now(), scheduled_at TIMESTAMPTZ NOT NULL DEFAULT now(), " ++
    "attempted_at TIMESTAMPTZ, finalized_at TIMESTAMPTZ, CONSTRAINT finalized_state_has_timestamp " ++
    "CHECK ( (state IN ('completed', 'discarded', 'cancelled')) = (finalized_at IS NOT NULL) ) ); " ++
    "-- Claim path: runnable jobs ordered by due time. CREATE INDEX idx_job_queue_claimable ON " ++
    "job_queue (scheduled_at, id) WHERE state IN ('available', 'scheduled', 'retryable'); -- " ++
    "Rescue path: running jobs ordered by attempt start. CREATE INDEX idx_job_queue_running ON " ++
    "job_queue (attempted_at) WHERE state = 'running';"
  | uuidMapping =>
    "-- Dedup index: each client UUID is admitted at most once. -- No foreign key: the mapping " ++
    "outlives job retention so a UUID is never reusable. CREATE TABLE uuid_job_mapping ( uuid UUID " ++
    "PRIMARY KEY, job_id UUID NOT NULL, created_at TIMESTAMPTZ NOT NULL DEFAULT now() ); CREATE " ++
    "UNIQUE INDEX idx_uuid_job_mapping_job_id ON uuid_job_mapping (job_id);"

/-- The value of a parameter. -/
inductive Parameter where
  | null
  | bool (b : Bool)
  | int (n : Int)
  | text (s : String)
  | texts (ss : List String)
  | uuid (u : Uuid)
  | jsonb (v : Json)
  | time (t : Instant)

/-- A statement with its parameters. -/
inductive Statement where
  /-- A connection is made. -/
  | connect
  | begin
  | commit
  | rollback
  | migrate (m : Migration)
  /-- Asks whether the database answers. -/
  | ping
  /-- Puts a job into the queue, to be run at once. -/
  | insertJob (id : Uuid) (job : NewJob) (now : Instant)
  /-- Takes the next job that may run; of any kind, if the list of kinds is empty. -/
  | claimJob (now : Instant) (kinds : List Job.Kind)
  /-- Completes a running attempt. -/
  | completeJob (now : Instant) (output : Option Json) (id : Uuid) (attempt : Int)
  /-- Records a failed attempt. -/
  | failJob (id : Uuid) (attempt : Int) (message : String) (retryable : Bool)
      (retryAt now : Instant)
  /-- Takes back the jobs that have been running since before a point in time. -/
  | rescueJobs (now cutoff : Instant)
  | selectJob (id : Uuid)
  | countPending
  /-- Looks up the job that was admitted under a UUID. -/
  | selectMapping (uuid : Uuid)
  /-- Records under which UUID a job was admitted. -/
  | insertMapping (uuid jobId : Uuid)

/-- The columns of a job. -/
def jobColumns : String :=
  "id, kind::text AS kind, state::text AS state, args, output, errors, attempt, max_attempts, " ++
  "created_at, scheduled_at, attempted_at, finalized_at"

/-- The message recorded for a job that was taken back. -/
def rescuedMessage : String :=
  "job exceeded its run time without finishing and was rescued"

namespace Statement

/-- The text of a statement. -/
def text : Statement → String
  | connect => "CONNECT"
  | begin => "BEGIN"
  | commit => "COMMIT"
  | rollback => "ROLLBACK"
  | migrate m => m.script
  | ping => "SELECT 1"
  | insertJob _ _ _ =>
    "INSERT INTO job_queue (id, kind, state, args, max_attempts, created_at, scheduled_at) VALUES " ++
    "($1, $2::job_kind, 'available'::job_state, $3, $4, $5, $5) RETURNING " ++ jobColumns
  | claimJob _ _ =>
    "UPDATE job_queue SET state = 'running'::job_state, attempt = attempt + 1, attempted_at = $1 " ++
    "WHERE id = ( SELECT id FROM job_queue WHERE state IN ('available'::job_state, " ++
    "'scheduled'::job_state, 'retryable'::job_state) AND scheduled_at <= $1 AND " ++
    "(cardinality($2::text[]) = 0 OR kind::text = ANY($2)) ORDER BY scheduled_at ASC, id ASC LIMIT " ++
    "1 FOR UPDATE SKIP LOCKED ) RETURNING " ++ jobColumns
  | completeJob _ _ _ _ =>
    "UPDATE job_queue SET state = 'completed'::job_state, finalized_at = $1, output = $2 WHERE id " ++
    "= $3 AND state = 'running'::job_state AND attempt = $4"
  | failJob _ _ _ _ _ _ =>
    "UPDATE job_queue SET state = CASE WHEN $4 AND attempt < max_attempts THEN " ++
    "'retryable'::job_state ELSE 'discarded'::job_state END, scheduled_at = CASE WHEN $4 AND " ++
    "attempt < max_attempts THEN $5 ELSE scheduled_at END, finalized_at = CASE WHEN $4 AND attempt " ++
    "< max_attempts THEN NULL ELSE $6 END, errors = errors || " ++
    "jsonb_build_array(jsonb_build_object( 'at', $6::timestamptz, 'attempt', attempt, 'error', " ++
    "$3::text)) WHERE id = $1 AND state = 'running'::job_state AND attempt = $2 RETURNING " ++
    "state::text"
  | rescueJobs _ _ =>
    "UPDATE job_queue SET state = CASE WHEN attempt < max_attempts THEN 'retryable'::job_state " ++
    "ELSE 'discarded'::job_state END, scheduled_at = $1, finalized_at = CASE WHEN attempt < " ++
    "max_attempts THEN NULL ELSE $1 END, errors = errors || jsonb_build_array(jsonb_build_object( " ++
    "'at', $1::timestamptz, 'attempt', attempt, 'error', $3::text)) WHERE state = " ++
    "'running'::job_state AND attempted_at < $2"
  | selectJob _ => "SELECT " ++ jobColumns ++ " FROM job_queue WHERE id = $1"
  | countPending =>
    "SELECT COUNT(*) FROM job_queue WHERE state IN ('available'::job_state, " ++
    "'scheduled'::job_state, 'retryable'::job_state)"
  | selectMapping _ => "SELECT job_id FROM uuid_job_mapping WHERE uuid = $1"
  | insertMapping _ _ => "INSERT INTO uuid_job_mapping (uuid, job_id) VALUES ($1, $2)"

/-- The parameters of a statement. -/
def parameters : Statement → List Parameter
  | insertJob id job now =>
    [.uuid id, .text job.kind.word, .jsonb job.args, .int job.maxAttempts, .time now]
  | claimJob now kinds => [.time now, .texts (kinds.map Job.Kind.word)]
  | completeJob now output id attempt =>
    [.time now, (output.map Parameter.jsonb).getD .null, .uuid id, .int attempt]
  | failJob id attempt message retryable retryAt now =>
    [.uuid id, .int attempt, .text message, .bool retryable, .time retryAt, .time now]
  | rescueJobs now cutoff => [.time now, .time cutoff, .text rescuedMessage]
  | selectJob id => [.uuid id]
  | selectMapping uuid => [.uuid uuid]
  | insertMapping uuid jobId => [.uuid uuid, .uuid jobId]
  | connect | begin | commit | rollback | migrate _ | ping | countPending => []

/-- A statement that succeeds of itself where no answer is kept for it. -/
def isSelfAnswering : Statement → Bool
  | connect | begin | commit | rollback | migrate _ => true
  | _ => false

end Statement

end VideoProbe.Database
