import VideoProbe.InfoJob
import VideoProbe.Queue

/-!
# Admission

A client chooses the UUID of its job, and each UUID is admitted at most once.  Admission is one
transaction: the UUID is looked up, the job and its mapping are stored, and all of it becomes
visible together or not at all.  Of two admissions that run at the same time the later one is
turned away by the primary key of the mappings, in its insertion or in its commit.
-/

namespace VideoProbe

open VideoProbe.Database

namespace Mapping

/-- The job that was admitted under a UUID. -/
def find? (uuid : Uuid) : Operation (Option Uuid) := do
  match ← fetchOptional (.selectMapping uuid) with
  | none => return none
  | some row =>
    match row.cell "job_id" with
    | .uuid id => return some id
    | _ => refuse unexpectedNull

/-- Records under which UUID a job was admitted.  A UUID that is taken is a duplicate. -/
def insertWithin (uuid jobId : Uuid) : Operation Unit := do
  let _ ← mapError (fun e => e.orDuplicate uuid) (execute (.insertMapping uuid jobId))

end Mapping

namespace Admission

/-- The body of the transaction of an admission. -/
def store (args : InfoArgs) : Operation Job := do
  if (← Mapping.find? args.uuid).isSome then throw (.error (.duplicateUuid args.uuid))
  let job ← Queue.insertWithin (.ofArgs .info args.toJson)
  Mapping.insertWithin args.uuid job.id
  return job

/-- Admits a job under the UUID of its client. -/
def submit (args : InfoArgs) : Operation InfoView := do
  beginTransaction
  match ← attempted (store args) with
  | .error f =>
    abandonTransaction
    throw f
  | .ok job =>
    mapError (fun e => e.orDuplicate args.uuid) (closeTransaction .commit)
    wakeWorkers
    lift (InfoView.ofJob args.uuid job)

/-- The present view of the job that was admitted under a UUID. -/
def status (uuid : Uuid) : Operation InfoView := do
  match ← Mapping.find? uuid with
  | none => throw (.error (.infoNotFound uuid))
  | some id =>
    match ← Queue.get? id with
    | none => throw (.error (.infoNotFound uuid))
    | some job => lift (InfoView.ofJob uuid job)

end Admission

end VideoProbe
