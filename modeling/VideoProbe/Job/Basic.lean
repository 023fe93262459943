import VideoProbe.Error
import VideoProbe.Instant
import VideoProbe.Job.Kind
import VideoProbe.Token
import VideoProbe.Video

/-!
# Jobs

A job is a record of the queue: what is to be done and with which arguments, in which state it is,
what it gave, and how its attempts failed.  Arguments and output are free JSON; they are read as
something definite by those who know the kind of the job.
-/

namespace VideoProbe

namespace Json.Decoder

/-- Reads a UUID in any of its spellings. -/
def identifier : Decoder Uuid :=
  spelled "a formatted UUID string" fun s =>
    match Uuid.parse s with
    | .ok u => .ok u
    | .error m => .error m.message

/-- Reads a point in time. -/
def instant : Decoder Instant :=
  spelled "an RFC 3339 formatted date and time string" fun s =>
    match Instant.parse s with
    | .ok t => .ok t
    | .error m => .error m.message

end Json.Decoder

/-- A point in time in JSON. -/
def Instant.toJson (t : Instant) : Json :=
  .str t.text

/-- A UUID in JSON. -/
def Uuid.toJson (u : Uuid) : Json :=
  .str u.text

/-- A failed attempt. -/
structure AttemptError where
  time : Instant
  attempt : Int
  message : String
  deriving DecidableEq, Repr

namespace AttemptError

/-- A failed attempt in JSON. -/
def toJson (e : AttemptError) : Json :=
  .object [("at", e.time.toJson), ("attempt", .int e.attempt), ("error", .str e.message)]

/-- A failed attempt that is being read. -/
structure Draft where
  time : Option Instant := none
  attempt : Option Int := none
  message : Option String := none

/-- The fields of a failed attempt. -/
def shape : Json.Shape Draft AttemptError where
  name := "AttemptError"
  fields := [
    .of "at" .instant Draft.time (fun x d => { d with time := some x }) false,
    .of "attempt" .int32 Draft.attempt (fun x d => { d with attempt := some x }) false,
    .of "error" .string Draft.message (fun x d => { d with message := some x }) false]
  blank := {}
  finish d := do
    let time ← Json.require "at" d.time
    let attempt ← Json.require "attempt" d.attempt
    let message ← Json.require "error" d.message
    return ⟨time, attempt, message⟩

/-- Reads a failed attempt. -/
def decoder : Json.Decoder AttemptError :=
  shape.decoder

end AttemptError

/-- A job of the queue. -/
structure Job where
  id : Uuid
  kind : Job.Kind
  state : Job.State
  args : Json
  output : Option Json
  errors : List AttemptError
  attempt : Int
  maxAttempts : Int
  createdAt : Instant
  scheduledAt : Instant
  attemptedAt : Option Instant
  finalizedAt : Option Instant

namespace Job

/-- A job in JSON. -/
def toJson (j : Job) : Json :=
  .object [("id", j.id.toJson), ("kind", .str j.kind.word), ("state", .str j.state.word),
    ("args", j.args), ("output", .ofOption (fun v => v) j.output),
    ("errors", .array (j.errors.map AttemptError.toJson)), ("attempt", .int j.attempt),
    ("max_attempts", .int j.maxAttempts), ("created_at", j.createdAt.toJson),
    ("scheduled_at", j.scheduledAt.toJson),
    ("attempted_at", .ofOption Instant.toJson j.attemptedAt),
    ("finalized_at", .ofOption Instant.toJson j.finalizedAt)]

/-- A job that is being read. -/
structure Draft where
  id : Option Uuid := none
  kind : Option Kind := none
  state : Option State := none
  args : Option Json := none
  output : Option (Option Json) := none
  errors : Option (List AttemptError) := none
  attempt : Option Int := none
  maxAttempts : Option Int := none
  createdAt : Option Instant := none
  scheduledAt : Option Instant := none
  attemptedAt : Option (Option Instant) := none
  finalizedAt : Option (Option Instant) := none

/-- The fields of a job.  Output and the two times that come with progress may be missing. -/
def shape : Json.Shape Draft Job where
  name := "Job"
  fields := [
    .of "id" .identifier Draft.id (fun x d => { d with id := some x }) false,
    .of "kind" Kind.choice.decoder Draft.kind (fun x d => { d with kind := some x }) false,
    .of "state" State.choice.decoder Draft.state (fun x d => { d with state := some x }) false,
    .of "args" .value Draft.args (fun x d => { d with args := some x }) false,
    .of "output" (.optional .value) Draft.output (fun x d => { d with output := some x }) false,
    .of "errors" (.list AttemptError.decoder) Draft.errors
      (fun x d => { d with errors := some x }) false,
    .of "attempt" .int32 Draft.attempt (fun x d => { d with attempt := some x }) false,
    .of "max_attempts" .int32 Draft.maxAttempts (fun x d => { d with maxAttempts := some x }) false,
    .of "created_at" .instant Draft.createdAt (fun x d => { d with createdAt := some x }) false,
    .of "scheduled_at" .instant Draft.scheduledAt (fun x d => { d with scheduledAt := some x })
      false,
    .of "attempted_at" (.optional .instant) Draft.attemptedAt
      (fun x d => { d with attemptedAt := some x }) false,
    .of "finalized_at" (.optional .instant) Draft.finalizedAt
      (fun x d => { d with finalizedAt := some x }) false]
  blank := {}
  finish d := do
    let id ← Json.require "id" d.id
    let kind ← Json.require "kind" d.kind
    let state ← Json.require "state" d.state
    let args ← Json.require "args" d.args
    let errors ← Json.require "errors" d.errors
    let attempt ← Json.require "attempt" d.attempt
    let maxAttempts ← Json.require "max_attempts" d.maxAttempts
    let createdAt ← Json.require "created_at" d.createdAt
    let scheduledAt ← Json.require "scheduled_at" d.scheduledAt
    return { id, kind, state, args, output := d.output.join, errors, attempt, maxAttempts,
             createdAt, scheduledAt, attemptedAt := d.attemptedAt.join,
             finalizedAt := d.finalizedAt.join }

/-- Reads a job. -/
def decoder : Json.Decoder Job :=
  shape.decoder

/-- The arguments of one kind of job. -/
structure Arguments (α : Type) where
  kind : Kind
  decoder : Json.Decoder α

/-- The arguments of a job as those of a definite kind. -/
def readArgs (a : Arguments α) (j : Job) : Except ServiceError α :=
  if j.kind ≠ a.kind then
    .error (.job ("job " ++ j.id.text ++ " has kind " ++ j.kind.word ++ ", expected " ++
      a.kind.word))
  else
    match a.decoder.ofValue j.args with
    | .ok args => .ok args
    | .error r => .error (.ofRefusal r)

/-- The recorded outcome of a job, if it has one. -/
def outcome (j : Job) : Except ServiceError (Option Outcome) :=
  match j.output with
  | none => .ok none
  | some .null => .ok none
  | some v =>
    match Outcome.decoder.ofValue v with
    | .ok o => .ok (some o)
    | .error r => .error (.ofRefusal r)

/-- The message of the last failed attempt. -/
def lastError (j : Job) : Option String :=
  j.errors.getLast?.map AttemptError.message

end Job

/-- A job that is to be put into the queue. -/
structure NewJob where
  kind : Job.Kind
  args : Json
  maxAttempts : Int

namespace NewJob

/-- How many attempts a job has unless it is said otherwise. -/
def defaultMaxAttempts : Int := 25

/-- A new job of a kind; its arguments become a free value. -/
def ofArgs (kind : Job.Kind) (args : Json) : NewJob where
  kind := kind
  args := args.sorted
  maxAttempts := defaultMaxAttempts

/-- The same job with another number of attempts, at least one. -/
def withMaxAttempts (j : NewJob) (n : Int) : NewJob :=
  { j with maxAttempts := max n 1 }

end NewJob

end VideoProbe
