import VideoProbe.Database.ConnectUrl
import VideoProbe.Database.Session
import VideoProbe.Logging.Sink
import VideoProbe.Settings.Database
import VideoProbe.Settings.Worker

/-!
# Coming up and going down

There are two programs.  The server answers requests, and may run a worker beside that; the other
program is a worker and nothing else.  A program that comes up reads its settings, opens a pool of
connections to the database, sets the database up, and takes up its duty, which it keeps until it
is asked to stop.  The first thing that fails ends it; what it has noted by then stays noted.
-/

namespace VideoProbe.Service

open VideoProbe.Database
open VideoProbe.Logging

variable [Url.DomainRules]

/-- The programs. -/
inductive Program where
  | server
  | worker
  deriving DecidableEq, Repr

namespace Program

/-- The file a program keeps its records in where the name of the file is left to it. -/
def logName : Program → String
  | server => "vinfo-api.log"
  | worker => "vinfo-worker.log"

/-- Where a program notes what it does itself. -/
def target : Program → String
  | server => "vinfo_api"
  | worker => "vinfo_worker"

end Program

/-- Where both programs note what they have in common. -/
def sharedTarget : String := Program.server.target

/-- Why a program ends before it has taken up its duty. -/
inductive Fault where
  | service (e : ServiceError)
  /-- It cannot listen where it is to. -/
  | listening (reason : String)
  | crash

/-- What a program that is coming up has to do with: the database, and its records so far. -/
structure Stage where
  session : Session
  records : List Record := []

/-- A part of coming up. -/
abbrev Startup := ExceptT Fault (StateM Stage)

/-- Adds a record. -/
def note (target message : String) (facts : List (String × Fact)) : Startup Unit :=
  modify fun s => { s with records := s.records ++ [{ target, message, facts }] }

/-- Ends with an error, where there is one. -/
def settle (r : Except ServiceError α) : Startup α :=
  match r with
  | .ok a => return a
  | .error e => throw (.service e)

/-- Has an operation on the database performed. -/
def perform (op : Operation α) : Startup α := do
  let s ← get
  let (r, session) := op.run s.session
  set { s with session }
  match r with
  | .ok a => return a
  | .error (.error e) => throw (.service e)
  | .error .crash => throw .crash

/-- What a program does until it is asked to stop. -/
inductive Duty where
  /-- It has nothing to do, and ends. -/
  | nothing
  | serve (worker : Option WorkerSettings)
  | work (settings : WorkerSettings)
  deriving DecidableEq, Repr

/-! ## Coming up -/

/-- Notes how records are kept. -/
def noteLogging (env : Environment) : Startup Unit :=
  let settings := LogSettings.ofEnvironment env
  note (sharedTarget ++ "::telemetry") "Logging initialized"
    [("log_format", .text (if settings.json then "json" else "text")),
      ("log_file", .text (settings.file.getD "(stdout)"))]

/-- Opens a pool of connections.  One connection is made at once; no time passes meanwhile. -/
def openPool (settings : DatabaseSettings) : Startup Unit := do
  let target := "vinfo_db::pool"
  let common := [("subsystem", Fact.text "database"), ("component", .text "pool")]
  let pool := PoolSettings.ofDatabase settings
  note target "Creating database connection pool"
    (common ++ [("op", .text "create"), ("max_connections", .number pool.maxConnections),
      ("min_connections", .number pool.minConnections),
      ("acquire_timeout_secs", .number (pool.acquireTimeout / 1000))])
  settle ((checkUrl settings.url).mapError .database)
  perform connect
  note target "Database connection pool established"
    (common ++ [("op", .text "established"), ("pool_size", .number pool.minConnections),
      ("pool_idle", .number pool.minConnections), ("duration_ms", .number 0)])

/-- Connects to the database. -/
def reachDatabase (p : Program) (env : Environment) : Startup Unit := do
  let settings ← settle (DatabaseSettings.ofEnvironment env)
  note p.target "Connecting to database..." [("max_connections", .number settings.maxConnections)]
  openPool settings

/-- Starts a worker. -/
def startWorker (settings : WorkerSettings) : Startup Unit :=
  note (sharedTarget ++ "::worker") "Starting job worker"
    [("max_concurrent", .number settings.maxConcurrent),
      ("poll_interval_ms", .number settings.pollInterval)]

/-- The server comes up.  `listen` tells at which address it comes to listen. -/
def startServer (env : Environment) (listen : ServerSettings → Except String String) :
    Startup Duty := do
  let target := Program.server.target
  let settings ← settle (ServerSettings.ofEnvironment env)
  reachDatabase .server env
  note target "Database connected" []
  note target "Running database migrations..." []
  perform migrate
  note target "Database migrations complete" []
  let worker :=
    if settings.embeddedWorker then some ((WorkerSettings.ofEnvironment env).withEnabled true)
    else none
  match worker with
  | some w => startWorker w
  | none =>
    note target "Embedded worker disabled (set VI_WORKER_ENABLED=true to enable)" []
  match listen settings with
  | .error reason => throw (.listening reason)
  | .ok address =>
    note target "Starting HTTP server" [("addr", .plain address)]
    return .serve worker

/-- The program that is a worker and nothing else comes up. -/
def startStandalone (env : Environment) : Startup Duty := do
  let target := Program.worker.target
  reachDatabase .worker env
  perform migrate
  note target "Database migrations complete" []
  let settings := WorkerSettings.ofEnvironment env
  if settings.enabled then
    startWorker settings
    return .work settings
  else
    note target "Worker disabled by VI_WORKER_ENABLED, exiting" []
    return .nothing

/-- A program comes up. -/
def start (p : Program) (env : Environment) (listen : ServerSettings → Except String String) :
    Startup Duty := do
  noteLogging env
  match p with
  | .server => startServer env listen
  | .worker => startStandalone env

/-! ## Going down -/

/-- What a program does when it is asked to stop. -/
def stop (d : Duty) : Startup Unit := do
  match d with
  | .nothing => return
  | .serve worker =>
    note sharedTarget "Shutdown signal received" []
    if worker.isSome then note Program.server.target "Stopping embedded worker" []
    note Program.server.target "Server stopped" []
  | .work _ =>
    note sharedTarget "Shutdown signal received" []
    note Program.worker.target "Stopping worker" []
    note Program.worker.target "Worker stopped" []

/-- An error as it is told at the end, with what caused it; causes have numbers if there are
several. -/
def complaint (message : String) (causes : List String) : String :=
  let indented := fun (label indent cause : String) =>
    "\n" ++ label ++ cause.replace "\n" ("\n" ++ indent)
  "Error: " ++ message ++
    (match causes with
      | [] => ""
      | [cause] => "\n\nCaused by:" ++ indented "    " "    " cause
      | _ =>
        "\n\nCaused by:" ++
          String.join (causes.zipIdx.map fun (cause, n) =>
            indented ("    " ++ Decimal.ofNat n ++ ": ") "       " cause)) ++
    "\n"

/-- How a program ends: its exit code, and what it complains about. -/
structure Ending where
  exit : Nat
  complaint : String
  deriving DecidableEq, Repr

/-- The ending of a program that has done its duty, or has failed. -/
def Ending.of : Except Fault Unit → Ending
  | .ok () => ⟨0, ""⟩
  | .error (.service e) => ⟨1, Service.complaint e.message e.causes⟩
  | .error (.listening reason) => ⟨1, Service.complaint reason []⟩
  | .error .crash => ⟨101, ""⟩

/-- A whole life: a program comes up, keeps its duty until it is asked to stop, and goes down. -/
def live (p : Program) (env : Environment) (listen : ServerSettings → Except String String)
    (session : Session) : Ending × Stage :=
  let (r, stage) := (start p env listen >>= stop).run { session }
  (Ending.of r, stage)

end VideoProbe.Service
