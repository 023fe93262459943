import VideoProbe.Delivery
import VideoProbe.Settings.Worker

/-!
# Workers

A worker takes jobs from the queue in batches, has each executed by the handler of its kind, and
records what the handlers say.  It is a machine: its state says where its loop is, which jobs are
claimed and not yet finished, and what has happened so far.  What happened is one list, in which
the statements to the database, the events for listeners and the turns of each job keep their
order.
-/

namespace VideoProbe.Worker

open VideoProbe.Database

/-- What a worker lets its listeners know. -/
inductive Event where
  | workerStarted
  | workerStopped
  | jobStarted (id : Uuid) (kind : Job.Kind)
  | jobCompleted (id : Uuid) (kind : Job.Kind)
  | jobFailed (id : Uuid) (kind : Job.Kind) (error : String) (state : Job.State)
  | jobsRescued (count : Nat)

/-- What a worker and its handlers talk to. -/
structure World where
  session : Session
  peer : Delivery.Peer

/-- How far a handler has come when it is given a turn. -/
inductive Progress where
  /-- It waits for something that has not happened yet. -/
  | pending
  | finished (result : HandlerResult)
  | crashed

/-- A handler executes a job.  It is told whether it has been cancelled. -/
abbrev Handler := Job → Bool → World → Progress × World

/-- The handlers of a worker, at most one for each kind of job. -/
abbrev Handlers := Job.Kind → Option Handler

namespace Handlers

/-- No handlers. -/
def none : Handlers := fun _ => .none

/-- Registers a handler in the place of any earlier one for the kind. -/
def register (hs : Handlers) (kind : Job.Kind) (h : Handler) : Handlers :=
  fun k => if k = kind then some h else hs k

/-- The kinds with a handler. -/
def kinds (hs : Handlers) : List Job.Kind :=
  Job.Kind.all.filter fun k => (hs k).isSome

end Handlers

/-- Who sends a statement or tells listeners something. -/
inductive Author where
  | loop
  /-- The worker, for a claimed job. -/
  | task (ticket : Nat)
  /-- The handler of a claimed job. -/
  | handler (ticket : Nat)
  deriving DecidableEq, Repr

/-- An entry in the history of a worker. -/
inductive Entry where
  /-- A statement is handed over to the database. -/
  | sent (author : Author) (exchange : Exchange)
  /-- Listeners are told something. -/
  | told (author : Author) (e : Event)
  /-- A claim gives a job. -/
  | claimed (ticket : Nat) (job : Job)
  /-- The handler of a job is done with it. -/
  | handled (ticket : Nat) (result : HandlerResult)
  /-- The handler of a job crashes. -/
  | panicked (ticket : Nat)

/-- Where a claimed job is. -/
inductive Stage where
  | claimed
  | handling
  | reporting (result : HandlerResult)

/-- A claimed job that is not finished, under the number of its claim: the same job may be claimed
more than once. -/
structure Task where
  ticket : Nat
  job : Job
  stage : Stage := .claimed

/-- Where the loop of a worker is. -/
inductive Phase where
  | fresh
  /-- Before a batch. -/
  | ready
  /-- Inside a batch: how many more jobs it may have, and how many it has. -/
  | claiming (left claimed : Nat)
  /-- There was nothing to claim. -/
  | waiting
  /-- The batch is complete and has to be finished. -/
  | draining
  | stopped
  | crashed
  deriving DecidableEq, Repr

/-- The state of a worker. -/
structure State where
  world : World
  phase : Phase := .fresh
  tasks : List Task := []
  /-- How many claims have given a job. -/
  claims : Nat := 0
  history : List Entry := []
  /-- The worker has been asked to stop. -/
  stopping : Bool := false
  /-- It has looked for stuck jobs. -/
  rescued : Bool := false

namespace State

/-- A worker that is about to be started.  Its history holds only what is sent from now on. -/
def fresh (w : World) : State :=
  { world := { w with session := { w.session with log := [] } } }

/-- Lets listeners know something. -/
def tell (s : State) (author : Author) (e : Event) : State :=
  { s with history := s.history ++ [.told author e] }

/-- Takes over a world in which something has happened: the statements of its log become part of
the history. -/
def absorb (s : State) (author : Author) (w : World) : State :=
  { s with world := { w with session := { w.session with log := [] } },
           history := s.history ++ w.session.log.map (.sent author) }

/-- Has an operation performed. -/
def perform (s : State) (author : Author) (op : Operation α) : Except Failure α × State :=
  let (r, session) := op.run s.world.session
  (r, s.absorb author { s.world with session })

/-- The events so far. -/
def events (s : State) : List Event :=
  s.history.filterMap fun
    | .told _ e => some e
    | _ => none

/-- The statements sent so far. -/
def statements (s : State) : List Statement :=
  s.history.filterMap fun
    | .sent _ x => x.sent?
    | _ => none

end State

end VideoProbe.Worker
