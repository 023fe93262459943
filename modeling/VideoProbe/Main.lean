import Std.Time.DateTime.Timestamp
import VideoProbe.Service
import VideoProbe.Settings.DotEnv

/-!
# The command line

With the argument `worker` the program is the worker, and otherwise it is the server.  All that
happens here is that the environment, a file of variables and the clock are read, and that records
and complaints are written.  No network is attached, so the database counts as unreachable.
-/

namespace VideoProbe.CommandLine

/-- Why the database cannot be reached. -/
def noNetwork : String := "Network is unreachable (os error 101)"

/-- The variables of a block of assignments with a zero behind each. -/
def assignments (block : String) : List (String × String) :=
  (block.splitOn "\x00").filterMap fun assignment =>
    match assignment.splitOn "=" with
    | name :: first :: rest => some (name, "=".intercalate (first :: rest))
    | _ => none

/-- The environment, together with the variables of a file in the present folder. -/
def environment : IO Environment := do
  let octets ← IO.FS.readBinFile "/proc/self/environ"
  let own := Environment.ofList (assignments ((String.fromUTF8? octets).getD ""))
  try
    return DotEnv.extend own (← IO.FS.readFile ".env")
  catch _ =>
    return own

/-- The present time. -/
def present : IO Instant := do
  let t ← Std.Time.Timestamp.now
  return ⟨t.val.second.val, t.val.nano.val.toNat / 1000 * 1000⟩

/-- Writes the text of records where they go. -/
def writeRecords (sink : Logging.Sink) (date text : String) : IO Unit := do
  match sink.file with
  | none => IO.print text
  | some file =>
    IO.FS.createDirAll file.directory
    let handle ← IO.FS.Handle.mk (file.path date) .append
    handle.putStr text

end VideoProbe.CommandLine

open VideoProbe

/-- Runs one of the programs.  A time that no clock shows, such as one before 1970, is a crash. -/
def main (args : List String) : IO UInt32 := do
  let program : Service.Program := if args.head? = some "worker" then .worker else .server
  let env ← CommandLine.environment
  let now ← CommandLine.present
  if shown : now.isShown = true then
    let (ending, stage) := Service.live program env (fun _ => .error CommandLine.noNetwork)
      { link := .down CommandLine.noNetwork, script := [], now, shown }
    let sink := Logging.Sink.ofEnvironment env program.logName
    CommandLine.writeRecords sink now.dateText (sink.write now.text stage.records)
    IO.eprint ending.complaint
    return ending.exit.toUInt32
  else
    return 101
