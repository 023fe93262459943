import VideoProbe.Worker.Basic

/-!
# Runs of a worker

A worker moves in steps: its loop takes one, or one of the claimed jobs does, or it is asked to
stop.  Which comes next is not up to the worker, so a run is a list of choices; whatever holds for
every list of choices holds for every order in which the jobs of a batch may finish, and for every
moment at which the worker may be asked to stop.  A step that has to wait changes nothing.

The loop claims jobs one after another until its batch is full or a claim gives none, and begins
the next batch only when every job of the last one is finished.
-/

namespace VideoProbe.Worker

open VideoProbe.Database

/-! ## One job -/

/-- Records what a handler says about a job.  Listeners are told only what has been recorded. -/
def report (job : Job) (result : HandlerResult) : Operation (Option Event) := do
  match result with
  | .success output =>
    let owned ← Queue.complete job.id job.attempt output
    return if owned then some (.jobCompleted job.id job.kind) else none
  | .finalized => return some (.jobCompleted job.id job.kind)
  | .superseded => return none
  | .failed message => failure message false
  | .retry message => failure message true
where
  /-- Records a failure. -/
  failure (message : String) (retryable : Bool) : Operation (Option Event) := do
    let state ← Queue.fail job.id job.attempt message retryable
    return state.map fun st => .jobFailed job.id job.kind message st

/-- What the handler of a job does with its turn; a job without a handler fails. -/
def handle (hs : Handlers) (job : Job) (cancelled : Bool) (w : World) : Progress × World :=
  match hs job.kind with
  | some h => h job cancelled w
  | none => (.finished (.failed ("No handler for job kind: " ++ job.kind.word)), w)

namespace State

/-- Gives a turn to a claimed job. -/
def stepTask (hs : Handlers) (i : Nat) (s : State) : State :=
  match s.tasks[i]? with
  | none => s
  | some t =>
    let continue_ := fun (s : State) (stage : Stage) =>
      { s with tasks := s.tasks.set i { t with stage } }
    let finish := fun (s : State) => { s with tasks := s.tasks.eraseIdx i }
    match t.stage with
    | .claimed => continue_ (s.tell (.task t.ticket) (.jobStarted t.job.id t.job.kind)) .handling
    | .handling =>
      match handle hs t.job s.stopping s.world with
      | (.pending, _) => s
      | (.crashed, w) =>
        let s := s.absorb (.handler t.ticket) w
        finish { s with history := s.history ++ [.panicked t.ticket] }
      | (.finished result, w) =>
        let s := s.absorb (.handler t.ticket) w
        continue_ { s with history := s.history ++ [.handled t.ticket result] } (.reporting result)
    | .reporting result =>
      match s.perform (.task t.ticket) (report t.job result) with
      | (.ok (some e), s) => finish (s.tell (.task t.ticket) e)
      | (_, s) => finish s

/-! ## The loop -/

/-- A crash of the loop takes the claimed jobs along. -/
def crash (s : State) : State :=
  { s with phase := .crashed, tasks := [] }

/-- Stops the loop. -/
def halt (s : State) : State :=
  { s.tell .loop .workerStopped with phase := .stopped }

/-- Looks for stuck jobs. -/
def rescue (settings : WorkerSettings) (s : State) : Except State State :=
  match s.perform .loop (Queue.rescue settings.rescueAfter) with
  | (.ok 0, s) => .ok s
  | (.ok count, s) => .ok (s.tell .loop (.jobsRescued count))
  | (.error (.error _), s) => .ok s
  | (.error .crash, s) => .error s

/-- Ends a batch: one that has no jobs is followed by a pause. -/
def endBatch (claimed : Nat) (s : State) : State :=
  { s with phase := if claimed = 0 then .waiting else .draining }

/-- Claims one more job for a batch. -/
def claimOne (hs : Handlers) (left claimed : Nat) (s : State) : State :=
  match hs.kinds with
  | [] => s.endBatch claimed
  | kinds =>
    match s.perform .loop (Queue.claim kinds) with
    | (.ok (some job), s) =>
      { s with phase := .claiming left (claimed + 1), claims := s.claims + 1,
               tasks := s.tasks ++ [{ ticket := s.claims, job }],
               history := s.history ++ [.claimed s.claims job] }
    | (.ok none, s) | (.error (.error _), s) => s.endBatch claimed
    | (.error .crash, s) => s.crash

/-- Gives a turn to the loop.  `due` tells whether it is time to look for stuck jobs again; the
first batch is always preceded by that. -/
def stepLoop (settings : WorkerSettings) (hs : Handlers) (due : Bool) (s : State) : State :=
  match s.phase with
  | .fresh =>
    if settings.enabled then { s.tell .loop .workerStarted with phase := .ready }
    else { s with phase := .stopped }
  | .ready =>
    if s.stopping then s.halt
    else if due || !s.rescued then
      match s.rescue settings with
      | .ok s => { s with rescued := true, phase := .claiming settings.maxConcurrent 0 }
      | .error s => s.crash
    else { s with phase := .claiming settings.maxConcurrent 0 }
  | .claiming 0 claimed => s.endBatch claimed
  | .claiming (left + 1) claimed => s.claimOne hs left claimed
  | .waiting => if s.stopping then s.halt else { s with phase := .ready }
  | .draining => if s.tasks.isEmpty then { s with phase := .ready } else s
  | .stopped | .crashed => s

end State

/-! ## Runs -/

/-- What happens next. -/
inductive Choice where
  | loop (due : Bool)
  | task (index : Nat)
  /-- The worker is asked to stop. -/
  | stop
  deriving DecidableEq, Repr

/-- One step of a run. -/
def step (settings : WorkerSettings) (hs : Handlers) (c : Choice) (s : State) : State :=
  match c with
  | .loop due => s.stepLoop settings hs due
  | .task i => s.stepTask hs i
  | .stop => { s with stopping := true }

/-- A run. -/
def run (settings : WorkerSettings) (hs : Handlers) (choices : List Choice) (s : State) : State :=
  choices.foldl (fun s c => step settings hs c s) s

/-! ## One connection

With a single connection, which is granted to those who wait in the order in which they came, the
loop and the jobs take turns. -/

/-- Whether a job can use a turn: one whose handler waits cannot. -/
def canMove (hs : Handlers) (s : State) (t : Task) : Bool :=
  match t.stage with
  | .handling =>
    match handle hs t.job s.stopping s.world with
    | (.pending, _) => false
    | _ => true
  | _ => true

/-- The first job that has just been claimed, and otherwise the first that can use a turn. -/
def nextTask? (hs : Handlers) (s : State) : Option Nat :=
  (s.tasks.findIdx? fun t => t.stage matches .claimed).or (s.tasks.findIdx? (canMove hs s))

/-- What happens next where the loop asks for the connection before the jobs it has claimed, and
has `turn` to itself.  All of it takes no time, so stuck jobs are looked for again only if that is
to be done all the time. -/
def nextChoice (settings : WorkerSettings) (hs : Handlers) (turn : Bool) (s : State) : Choice :=
  let due := settings.rescueInterval == 0
  match nextTask? hs s with
  | none => .loop due
  | some i =>
    match s.phase with
    | .claiming _ claimed => if claimed ≤ 1 || turn then .loop due else .task i
    | _ => .task i

/-- Whether a run is over. -/
def State.isOver (s : State) : Bool :=
  s.phase == .stopped || s.phase == .crashed

/-- Runs a worker that is asked to stop as soon as a condition holds, at most for some steps. -/
def runUntil (settings : WorkerSettings) (hs : Handlers) (stopWhen : State → Bool) :
    Nat → Bool → State → State
  | 0, _, s => s
  | fuel + 1, turn, s =>
    if s.isOver then s
    else if !s.stopping && stopWhen s then
      runUntil settings hs stopWhen fuel turn (step settings hs .stop s)
    else
      runUntil settings hs stopWhen fuel (!turn) (step settings hs (nextChoice settings hs turn s) s)

/-! ## The handlers of the service -/

/-- The handler of info jobs, with a probe that may not have finished yet. -/
def infoHandler (probe : String → Bool → Option (Except ProbeError VideoInfo)) : Handler :=
  fun job cancelled w =>
    match job.readArgs InfoArgs.arguments with
    | .error e => (.finished (.failed ("Invalid info job arguments: " ++ e.message)), w)
    | .ok args =>
      match probe args.path cancelled with
      | none => (.pending, w)
      | some result =>
        let (r, session) := (Extraction.execute (fun _ => result) job).run w.session
        let w := { w with session }
        match r with
        | .ok result => (.finished result, w)
        | .error _ => (.crashed, w)

/-- The handler of webhook jobs. -/
def webhookHandler [Url.DomainRules] : Handler :=
  fun job cancelled w =>
    let (result, peer) := Delivery.execute job cancelled w.peer
    (.finished result, { w with peer })

end VideoProbe.Worker
