import VideoProbe.Settings.Environment

/-!
# Settings of the server and of its records

Where the interface listens, whether the process runs a worker of its own, and how and where the
programs keep their records.
-/

namespace VideoProbe

/-- Where the interface listens, and whether the process runs a worker. -/
structure ServerSettings where
  host : String
  port : Nat
  embeddedWorker : Bool
  deriving DecidableEq, Repr

/-- Settings from the environment. -/
def ServerSettings.ofEnvironment (env : Environment) : Except ServiceError ServerSettings := do
  let host := (env.nonempty? "VI_SERVER_HOST").getD "0.0.0.0"
  let port ← env.port "VI_SERVER_PORT" 8080
  let embeddedWorker := ((env "VI_WORKER_ENABLED").map Environment.isOn).getD false
  return { host, port, embeddedWorker }

/-- How the programs keep their records. -/
structure LogSettings where
  /-- One JSON object a record instead of a line of text. -/
  json : Bool
  /-- The file to write to, instead of standard output. -/
  file : Option String
  /-- Colours, if it is said whether to use them. -/
  ansi : Option Bool
  deriving DecidableEq, Repr

/-- Settings from the environment. -/
def LogSettings.ofEnvironment (env : Environment) : LogSettings where
  json := ((env "LOG_FORMAT").map fun v => v.map Char.toLower == "json").getD false
  file := env.nonempty? "LOG_FILE"
  ansi := (env "LOG_ANSI").map Environment.isOn

end VideoProbe
