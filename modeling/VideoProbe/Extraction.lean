import VideoProbe.Probe.Process
import VideoProbe.Queue
import VideoProbe.WebhookJob

/-!
# Extraction

What a worker does with an info job: it probes the video and hands over the outcome.  A probe that
gives an error has given an outcome too; only a probe that was cancelled has given none.

If the client asked to be told, the outcome and the job that delivers it are stored in one
transaction, which the handler closes itself: either both are there or neither is.  If the job has
been taken away from the attempt in the meantime, nothing is stored.
-/

namespace VideoProbe

open VideoProbe.Database

/-- What a handler says about an attempt. -/
inductive HandlerResult where
  /-- The job is done, and this is its output for the worker to record. -/
  | success (output : Option Json)
  /-- The job is done and recorded. -/
  | finalized
  /-- The job is no longer the attempt's. -/
  | superseded
  /-- The job cannot be done. -/
  | failed (message : String)
  /-- The attempt failed, and another may do better. -/
  | retry (message : String)

namespace Extraction

/-- The outcome of a probe; none if it was cancelled. -/
def outcome? : Except ProbeError VideoInfo → Option Outcome
  | .ok info => some (.result info)
  | .error .cancelled => none
  | .error e => some (.error e.message)

/-- The job that delivers an outcome to a client. -/
def webhookJob (uri : String) (args : InfoArgs) (outcome : Outcome) : NewJob :=
  .ofArgs .webhook (WebhookArgs.toJson ⟨uri, args.webhookToken, args.uuid, outcome⟩)

/-- Inserts the job that delivers an outcome and completes the attempt, inside an open transaction;
the insertion is not to stay if the job is no longer the attempt's. -/
def recordWithin (job : Job) (webhook : NewJob) (output : Json) : Operation (Closing Bool) := do
  let _ ← Queue.insertWithin webhook
  if ← Queue.completeWithin job.id job.attempt (some output) then
    return .commit true
  else
    return .rollback false

/-- Stores the outcome and the job that delivers it; false if the job is no longer the
attempt's. -/
def completeWithWebhook (job : Job) (uri : String) (args : InfoArgs) (outcome : Outcome) :
    Operation Bool := do
  let stored ←
    transaction (recordWithin job (webhookJob uri args outcome) outcome.toJson.sorted)
  if stored then wakeWorkers
  return stored

/-- What a handler says once it has tried to store an outcome together with its delivery. -/
def settle : Except Failure Bool → Except Failure HandlerResult
  | .ok true => .ok .finalized
  | .ok false => .ok .superseded
  | .error (.error e) => .ok (.retry ("Failed to record outcome: " ++ e.message))
  | .error .crash => .error .crash

/-- Executes an info job, given what the probe will say about a path.  The answer is an operation
that fails only by a crash. -/
def execute (probe : String → Except ProbeError VideoInfo) (job : Job) :
    Operation HandlerResult := do
  match job.readArgs InfoArgs.arguments with
  | .error e => return .failed ("Invalid info job arguments: " ++ e.message)
  | .ok args =>
    match outcome? (probe args.path) with
    | none => return .retry "Probe cancelled by worker shutdown"
    | some outcome =>
      match args.webhookUri with
      | none => return .success (some outcome.toJson.sorted)
      | some uri =>
        match settle (← attempted (completeWithWebhook job uri args outcome)) with
        | .ok result => return result
        | .error f => throw f

end Extraction

end VideoProbe
