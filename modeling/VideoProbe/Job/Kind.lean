import VideoProbe.Json.Record

/-!
# Kinds and states of jobs

There are two kinds of jobs, and a job passes through eight states.  Three of them are final: the
job never runs again.  Both are written as lower-case words, in the database and in JSON.
-/

namespace VideoProbe.Job

/-- What a job does. -/
inductive Kind where
  /-- Extracts the duration and the chapters of a video. -/
  | info
  /-- Delivers an outcome to a client. -/
  | webhook
  deriving DecidableEq, Repr, Inhabited

/-- The word for a kind. -/
def Kind.word : Kind → String
  | info => "info"
  | webhook => "webhook"

/-- All kinds. -/
def Kind.all : List Kind := [info, webhook]

/-- The kind that a word stands for. -/
def Kind.ofWord? (s : String) : Option Kind :=
  all.find? fun k => k.word = s

/-- Where a job is in its life. -/
inductive State where
  /-- Ready to be claimed. -/
  | available
  /-- Waiting for its time. -/
  | scheduled
  /-- Not yet eligible to run. -/
  | pending
  /-- Claimed by a worker. -/
  | running
  /-- Failed an attempt and waits for the next. -/
  | retryable
  /-- Finished. -/
  | completed
  /-- Given up. -/
  | discarded
  /-- Cancelled by an operator. -/
  | cancelled
  deriving DecidableEq, Repr, Inhabited

/-- The word for a state. -/
def State.word : State → String
  | available => "available"
  | scheduled => "scheduled"
  | pending => "pending"
  | running => "running"
  | retryable => "retryable"
  | completed => "completed"
  | discarded => "discarded"
  | cancelled => "cancelled"

/-- All states. -/
def State.all : List State :=
  [available, scheduled, pending, running, retryable, completed, discarded, cancelled]

/-- The state that a word stands for. -/
def State.ofWord? (s : String) : Option State :=
  all.find? fun k => k.word = s

/-- A job in this state never runs again. -/
def State.isFinal : State → Bool
  | completed | discarded | cancelled => true
  | _ => false

/-- Kinds are read from their words. -/
def Kind.choice : Json.Choice Kind where
  alternatives := all.map fun k => (k.word, .bare k)

/-- States are read from their words. -/
def State.choice : Json.Choice State where
  alternatives := all.map fun k => (k.word, .bare k)

end VideoProbe.Job
