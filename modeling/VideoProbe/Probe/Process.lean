import VideoProbe.Probe.Output
import VideoProbe.Settings.Worker
import VideoProbe.Text.Utf8

/-!
# The probe as a process

The program is started with the path as its last argument, written so that it cannot be taken for
an option.  What it printed counts only if it ended well; otherwise what it printed as an error is
the reason, or, if that is nothing but white space, how it ended.
-/

namespace VideoProbe.Probe

/-- How a process ends. -/
inductive Ending where
  | exited (code : Nat)
  | killed (signal : Nat)
  /-- By a signal, and its memory was written to a file. -/
  | dumped (signal : Nat)
  deriving DecidableEq, Repr

/-- The names of signals, in the order of their numbers, from one on. -/
def signalNames : List String := [
  "SIGHUP", "SIGINT", "SIGQUIT", "SIGILL", "SIGTRAP", "SIGABRT", "SIGBUS", "SIGFPE", "SIGKILL",
  "SIGUSR1", "SIGSEGV", "SIGUSR2", "SIGPIPE", "SIGALRM", "SIGTERM", "SIGSTKFLT", "SIGCHLD",
  "SIGCONT", "SIGSTOP", "SIGTSTP", "SIGTTIN", "SIGTTOU", "SIGURG", "SIGXCPU", "SIGXFSZ",
  "SIGVTALRM", "SIGPROF", "SIGWINCH", "SIGIO", "SIGPWR", "SIGSYS"]

/-- The name of a signal in parentheses, after its number; nothing for one without a name. -/
def signalName (signal : Nat) : String :=
  match signalNames[signal - 1]? with
  | some name => " (" ++ name ++ ")"
  | none => ""

/-- How a process ended, in words. -/
def Ending.describe : Ending → String
  | exited code => "exit status: " ++ Decimal.ofNat code
  | killed signal => "signal: " ++ Decimal.ofNat signal ++ signalName signal
  | dumped signal =>
    "signal: " ++ Decimal.ofNat signal ++ signalName signal ++ " (core dumped)"

/-- What a process left behind. -/
structure Finished where
  stdout : List UInt8
  stderr : List UInt8
  ending : Ending

/-- The path as an argument: one with a leading dash would be taken for an option. -/
def inputArgument (path : String) : String :=
  if path.toList.head? = some '-' then "./" ++ path else path

/-- The arguments of the program. -/
def arguments (path : String) : List String :=
  ["-v", "quiet", "-print_format", "json", "-show_format", "-show_chapters", inputArgument path]

/-- Why a process failed. -/
def Finished.detail (f : Finished) : String :=
  let printed := Text.trim (Text.Utf8.decodeLossy f.stderr)
  if printed = "" then f.ending.describe else printed

/-- The metadata, or the reason why there is none. -/
def Finished.info (f : Finished) : Except ProbeError VideoInfo :=
  if f.ending = .exited 0 then parseOutput f.stdout else .error (.failed f.detail)

/-- What the program does when it is started. -/
inductive Program where
  | missing
  | hangs
  | finishes (f : Finished)

/-- When a probe is cancelled. -/
inductive Cancellation where
  | never
  | before
  | during
  deriving DecidableEq, Repr

/-- A probe that was tried: what it gave, and the arguments of the program if it ran to its
end. -/
structure Attempt where
  result : Except ProbeError VideoInfo
  arguments : Option (List String)

/-- A character that no argument of a process can contain. -/
def hasNul (path : String) : Bool :=
  path.toList.any fun c => c = '\x00'

/-- Tries a probe.  A program that hangs is stopped by the time limit, or by the cancellation,
which comes sooner or later where there is no limit. -/
def attempt (settings : ProbeSettings) (path : String) (program : Program)
    (cancel : Cancellation) : Attempt :=
  if cancel = .before then ⟨.error .cancelled, none⟩
  else if hasNul path then ⟨.error (.spawn "nul byte found in provided data"), none⟩
  else
    match program with
    | .missing => ⟨.error (.spawn "No such file or directory (os error 2)"), none⟩
    | .finishes f => ⟨f.info, some (arguments path)⟩
    | .hangs =>
      match cancel, settings.timeout with
      | .never, some limit => ⟨.error (.timedOut (limit / 1000)), none⟩
      | _, _ => ⟨.error .cancelled, none⟩

end VideoProbe.Probe
