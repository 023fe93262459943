import VideoProbe.Settings.Environment

/-!
# Settings of the worker, the probe and the webhook client

Durations are in milliseconds unless a field says seconds.
-/

namespace VideoProbe

/-- How a worker goes about its jobs. -/
structure WorkerSettings where
  /-- How long to wait where the queue is empty. -/
  pollInterval : Nat := 500
  /-- How many jobs are claimed in one batch. -/
  maxConcurrent : Nat := 4
  enabled : Bool := true
  /-- A job that has been running for longer is taken away from its worker. -/
  rescueAfter : Nat := 3600000
  /-- How often to look for such jobs. -/
  rescueInterval : Nat := 60000
  deriving DecidableEq, Repr

namespace WorkerSettings

/-- Settings from the environment.  What cannot be read counts as missing. -/
def ofEnvironment (env : Environment) : WorkerSettings :=
  let base : WorkerSettings := {}
  let rescueAfter := ((env.seconds? "VI_WORKER_RESCUE_AFTER_SECS").map (· * 1000)).getD
    base.rescueAfter
  { pollInterval := ((env "VI_WORKER_POLL_INTERVAL_MS").bind Decimal.word64?).getD base.pollInterval
    maxConcurrent :=
      max (((env "VI_WORKER_MAX_CONCURRENT").bind Decimal.word64?).getD base.maxConcurrent) 1
    enabled := ((env "VI_WORKER_ENABLED").map fun v => v != "false" && v != "0").getD base.enabled
    rescueAfter := rescueAfter
    rescueInterval := min base.rescueInterval rescueAfter }

/-- Another time to wait where the queue is empty. -/
def withPollInterval (s : WorkerSettings) (ms : Nat) : WorkerSettings :=
  { s with pollInterval := ms }

/-- Another size of a batch, at least one. -/
def withMaxConcurrent (s : WorkerSettings) (n : Nat) : WorkerSettings :=
  { s with maxConcurrent := max n 1 }

/-- Switches the processing of jobs on or off. -/
def withEnabled (s : WorkerSettings) (b : Bool) : WorkerSettings :=
  { s with enabled := b }

/-- Another threshold for stuck jobs, and how often to look for them. -/
def withRescue (s : WorkerSettings) (after interval : Nat) : WorkerSettings :=
  { s with rescueAfter := after, rescueInterval := interval }

end WorkerSettings

/-- Which program examines a video, and for how long it may run, in milliseconds. -/
structure ProbeSettings where
  binary : String := "ffprobe"
  timeout : Option Nat := none
  deriving DecidableEq, Repr

namespace ProbeSettings

/-- Settings from the environment. -/
def ofEnvironment (env : Environment) : ProbeSettings where
  binary := (env.nonempty? "VI_FFPROBE_PATH").getD "ffprobe"
  timeout := (env.seconds? "VI_PROBE_TIMEOUT_SECS").map (· * 1000)

/-- The settings as a record of the log shows them; only whole seconds occur as time limits. -/
def describe (s : ProbeSettings) : String :=
  let limit :=
    match s.timeout with
    | none => "None"
    | some ms => "Some(" ++ Decimal.ofNat (ms / 1000) ++ "s)"
  "FfprobeProbe \x7b binary: " ++ Text.quote s.binary ++ ", timeout: " ++ limit ++ " \x7d"

end ProbeSettings

/-- How long a webhook may take to answer, in milliseconds. -/
def webhookTimeout (env : Environment) : Nat :=
  (env.seconds? "VI_WEBHOOK_TIMEOUT_SECS").getD 30 * 1000

end VideoProbe
