import VideoProbe.Job.Basic

/-!
# Info jobs

What a client asks for, what the extraction job is given, and what the client sees of it.

The view of a job is derived anew for every question and never stored: the state of the queue maps
onto four statuses, and an error that was recorded as the outcome of a completed job makes the
status *failed*.
-/

namespace VideoProbe

/-- The arguments of an extraction job. -/
structure InfoArgs where
  uuid : Uuid
  path : String
  webhookUri : Option String
  webhookToken : Option Token
  deriving DecidableEq

namespace InfoArgs

/-- The arguments in JSON. -/
def toJson (a : InfoArgs) : Json :=
  .object ([("uuid", a.uuid.toJson), ("path", .str a.path)] ++
    Json.optionalMember "webhook_uri" .str a.webhookUri ++
    Json.optionalMember "webhook_token" Token.toJson a.webhookToken)

/-- Arguments that are being read. -/
structure Draft where
  uuid : Option Uuid := none
  path : Option String := none
  webhookUri : Option (Option String) := none
  webhookToken : Option (Option Token) := none

/-- The fields of the arguments. -/
def shape : Json.Shape Draft InfoArgs where
  name := "InfoJobArgs"
  fields := [
    .of "uuid" .identifier Draft.uuid (fun x d => { d with uuid := some x }) false,
    .of "path" .string Draft.path (fun x d => { d with path := some x }) false,
    .of "webhook_uri" (.optional .string) Draft.webhookUri
      (fun x d => { d with webhookUri := some x }) true,
    .of "webhook_token" Token.optionalDecoder Draft.webhookToken
      (fun x d => { d with webhookToken := some x }) true]
  blank := {}
  finish d := do
    let uuid ← Json.require "uuid" d.uuid
    let path ← Json.require "path" d.path
    return ⟨uuid, path, d.webhookUri.join, d.webhookToken.join⟩

/-- Reads the arguments of an extraction job. -/
def decoder : Json.Decoder InfoArgs :=
  shape.decoder

/-- They belong to the jobs of kind *info*. -/
def arguments : Job.Arguments InfoArgs :=
  ⟨.info, decoder⟩

end InfoArgs

/-- What a client sends to have a video examined. -/
structure InfoRequest where
  uuid : Uuid
  videoPath : String
  webhookUri : Option String
  webhookToken : Option Token
  deriving DecidableEq

namespace InfoRequest

/-- A request in JSON. -/
def toJson (r : InfoRequest) : Json :=
  .object [("uuid", r.uuid.toJson), ("video_path", .str r.videoPath),
    ("webhook_uri", .ofOption .str r.webhookUri),
    ("webhook_token", .ofOption Token.toJson r.webhookToken)]

/-- A request that is being read. -/
structure Draft where
  uuid : Option Uuid := none
  videoPath : Option String := none
  webhookUri : Option (Option String) := none
  webhookToken : Option (Option Token) := none

/-- The fields of a request. -/
def shape : Json.Shape Draft InfoRequest where
  name := "CreateInfoRequest"
  fields := [
    .of "uuid" .identifier Draft.uuid (fun x d => { d with uuid := some x }) false,
    .of "video_path" .string Draft.videoPath (fun x d => { d with videoPath := some x }) false,
    .of "webhook_uri" (.optional .string) Draft.webhookUri
      (fun x d => { d with webhookUri := some x }) true,
    .of "webhook_token" Token.optionalDecoder Draft.webhookToken
      (fun x d => { d with webhookToken := some x }) true]
  blank := {}
  finish d := do
    let uuid ← Json.require "uuid" d.uuid
    let videoPath ← Json.require "video_path" d.videoPath
    return ⟨uuid, videoPath, d.webhookUri.join, d.webhookToken.join⟩

/-- Reads a request. -/
def decoder : Json.Decoder InfoRequest :=
  shape.decoder

/-- The arguments of the job that a request asks for. -/
def toArgs (r : InfoRequest) : InfoArgs :=
  ⟨r.uuid, r.videoPath, r.webhookUri, r.webhookToken⟩

end InfoRequest

/-- What a client is told about the progress of its job. -/
inductive InfoStatus where
  | pending
  | running
  | completed
  | failed
  deriving DecidableEq, Repr

namespace InfoStatus

/-- The word for a status. -/
def word : InfoStatus → String
  | pending => "pending"
  | running => "running"
  | completed => "completed"
  | failed => "failed"

/-- Statuses are read from their words. -/
def choice : Json.Choice InfoStatus where
  alternatives := [pending, running, completed, failed].map fun s => (s.word, .bare s)

/-- The status of a job in a state, its outcome apart. -/
def ofState : Job.State → InfoStatus
  | .available | .scheduled | .retryable | .pending => pending
  | .running => running
  | .completed => completed
  | .discarded | .cancelled => failed

end InfoStatus

/-- What a client sees of its job. -/
structure InfoView where
  uuid : Uuid
  status : InfoStatus
  videoPath : String
  result : Option VideoInfo
  error : Option String
  createdAt : Instant
  updatedAt : Instant
  deriving DecidableEq

namespace InfoView

/-- A view in JSON. -/
def toJson (v : InfoView) : Json :=
  .object ([("uuid", v.uuid.toJson), ("status", .str v.status.word),
      ("video_path", .str v.videoPath)] ++
    Json.optionalMember "result" VideoInfo.toJson v.result ++
    Json.optionalMember "error" .str v.error ++
    [("created_at", v.createdAt.toJson), ("updated_at", v.updatedAt.toJson)])

/-- A view that is being read. -/
structure Draft where
  uuid : Option Uuid := none
  status : Option InfoStatus := none
  videoPath : Option String := none
  result : Option (Option VideoInfo) := none
  error : Option (Option String) := none
  createdAt : Option Instant := none
  updatedAt : Option Instant := none

/-- The fields of a view. -/
def shape : Json.Shape Draft InfoView where
  name := "InfoJob"
  fields := [
    .of "uuid" .identifier Draft.uuid (fun x d => { d with uuid := some x }) false,
    .of "status" InfoStatus.choice.decoder Draft.status (fun x d => { d with status := some x })
      false,
    .of "video_path" .string Draft.videoPath (fun x d => { d with videoPath := some x }) false,
    .of "result" (.optional VideoInfo.decoder) Draft.result
      (fun x d => { d with result := some x }) true,
    .of "error" (.optional .string) Draft.error (fun x d => { d with error := some x }) true,
    .of "created_at" .instant Draft.createdAt (fun x d => { d with createdAt := some x }) false,
    .of "updated_at" .instant Draft.updatedAt (fun x d => { d with updatedAt := some x }) false]
  blank := {}
  finish d := do
    let uuid ← Json.require "uuid" d.uuid
    let status ← Json.require "status" d.status
    let videoPath ← Json.require "video_path" d.videoPath
    let createdAt ← Json.require "created_at" d.createdAt
    let updatedAt ← Json.require "updated_at" d.updatedAt
    return { uuid, status, videoPath, result := d.result.join, error := d.error.join, createdAt,
             updatedAt }

/-- Reads a view. -/
def decoder : Json.Decoder InfoView :=
  shape.decoder

/-- The view of a job under the UUID of the client.

The error is the one recorded as the outcome, if there is one; a job that failed without recording
an outcome shows the message of its last attempt. -/
def ofJob (uuid : Uuid) (j : Job) : Except ServiceError InfoView := do
  let args ← j.readArgs InfoArgs.arguments
  let outcome ← j.outcome
  let recorded := outcome.bind Outcome.error?
  let plain := InfoStatus.ofState j.state
  let status := if recorded.isSome ∧ plain = .completed then .failed else plain
  let error := recorded.or (if status = .failed then j.lastError else none)
  return { uuid, status, videoPath := args.path, result := outcome.bind Outcome.result?, error,
           createdAt := j.createdAt, updatedAt := j.finalizedAt.getD j.createdAt }

end InfoView

end VideoProbe
