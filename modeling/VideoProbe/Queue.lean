import VideoProbe.Database.JobRow
import VideoProbe.Job.Backoff

/-!
# The job queue

Jobs wait in a table and are taken from it by workers, each attempt under a number of its own.
What a worker reports about an attempt carries that number, and changes nothing if the job has
been taken away from it in the meantime.
-/

namespace VideoProbe.Queue

open VideoProbe.Database

/-- Puts a job into the queue inside an open transaction: nobody sees it before the commit. -/
def insertWithin (job : NewJob) : Operation Job := do
  let created ← now
  let id ← newId
  let row ← fetchOne (.insertJob id job created)
  readRow jobOfRow row

/-- Puts a job into the queue and wakes the workers. -/
def insert (job : NewJob) : Operation Job := do
  let stored ← insertWithin job
  wakeWorkers
  return stored

/-- Takes the next job that may run, of one of the given kinds, or of any if none is given. -/
def claim (kinds : List Job.Kind) : Operation (Option Job) := do
  match ← fetchOptional (.claimJob (← now) kinds) with
  | none => return none
  | some row => return some (← readRow jobOfRow row)

/-- Completes a running attempt inside an open transaction; false if the job is no longer the
attempt's. -/
def completeWithin (id : Uuid) (attempt : Int) (output : Option Json) : Operation Bool := do
  return (← execute (.completeJob (← now) output id attempt)) = 1

/-- Completes a running attempt; false if the job is no longer the attempt's. -/
def complete (id : Uuid) (attempt : Int) (output : Option Json) : Operation Bool :=
  transaction do
    return .commit (← completeWithin id attempt output)

/-- The longest time, in milliseconds, that can be added to a point in time or taken off it. -/
def longestSpan : Nat := Nat.pow 2 63 - 1

/-- The point in time before which a failed attempt is not followed by another.  One beyond the
calendar crashes. -/
def retryTime (failed : Instant) (attempt : Int) : Except Failure Instant :=
  let delay := Job.retryDelay attempt
  if longestSpan < delay * 1000 then
    .error (.error (.internal "Source duration value is out of range for the target type"))
  else
    let t := failed.addSeconds delay
    if t.isCovered then .ok t else .error .crash

/-- Records a failed attempt: the job waits for its next one if the failure may pass and there are
attempts left, and is given up otherwise.  Answers with the new state, or with nothing if the job
is no longer the attempt's. -/
def fail (id : Uuid) (attempt : Int) (message : String) (retryable : Bool) :
    Operation (Option Job.State) := do
  let failed ← now
  let retryAt ← ofExcept (retryTime failed attempt)
  match ← fetchOptional (.failJob id attempt message retryable retryAt failed) with
  | none => return none
  | some row =>
    match row.cell "state" with
    | .text s => return some (stateOfWord s)
    | _ => refuse unexpectedNull

/-- The point in time before which an attempt must have started to count as stuck.  A threshold
beyond the calendar crashes. -/
def cutoff (start : Instant) (olderThan : Nat) : Except Failure Instant :=
  if longestSpan < olderThan then
    .error (.error (.internal "Source duration value is out of range for the target type"))
  else
    let t := start.addNanos (-(olderThan * 1000000 : Nat))
    if t.isCovered then .ok t else .error .crash

/-- Takes back the jobs that have been running for longer than some milliseconds; answers with
their number. -/
def rescue (olderThan : Nat) : Operation Nat := do
  let start ← now
  let before ←
    match cutoff start olderThan with
    | .ok t => pure t
    | .error f => throw f
  let count ← execute (.rescueJobs start before)
  if 0 < count then wakeWorkers
  return count

/-- The job with an identifier. -/
def get? (id : Uuid) : Operation (Option Job) := do
  match ← fetchOptional (.selectJob id) with
  | none => return none
  | some row => return some (← readRow jobOfRow row)

/-- How many jobs wait. -/
def pendingCount : Operation Int := do
  let row ← fetchOne .countPending
  match row.cell "count" with
  | .int n => return n
  | _ => refuse unexpectedNull

end VideoProbe.Queue
