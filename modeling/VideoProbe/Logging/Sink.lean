import VideoProbe.Logging.Filter
import VideoProbe.Settings.Server

/-!
# Where records go

Records go to standard output, or to a file whose name is followed by the date, in a folder of its
own if the name has one.  A name that names no file leaves the choice of a name to the program.
-/

namespace VideoProbe.Logging

/-- The parts of a path: what stands between slashes, without empty parts and without single dots
behind the first part. -/
def pathParts (path : String) : List String :=
  match path.splitOn "/" with
  | [] => []
  | first :: rest =>
    (if first = "" then [] else [first]) ++ rest.filter fun p => p ≠ "" && p ≠ "."

/-- A file for records: the parts of its folder, and its name without the date. -/
structure FileSink where
  isAbsolute : Bool
  folder : List String
  name : String
  deriving DecidableEq, Repr

/-- The file of a path. -/
def FileSink.ofPath (path default : String) : FileSink :=
  let isAbsolute := path.toList.head? = some '/'
  let parts := pathParts path
  match parts.getLast? with
  | none => ⟨false, [], default⟩
  | some last =>
    let name := if last = ".." || last = "." then default else last
    ⟨isAbsolute, parts.dropLast.filter (· ≠ "."), name⟩

/-- The folder of a file; the present one is a dot. -/
def FileSink.directory (f : FileSink) : String :=
  if f.isAbsolute then "/" ++ "/".intercalate f.folder
  else if f.folder.isEmpty then "." else "/".intercalate f.folder

/-- The path of the file on a day. -/
def FileSink.path (f : FileSink) (date : String) : String :=
  (if f.isAbsolute then "/" else "") ++ "/".intercalate (f.folder ++ [f.name ++ "." ++ date])

/-- What a program notes about its work, and where. -/
structure Sink where
  file : Option FileSink
  style : Style
  filter : Filter

/-- The way records are kept, by the environment; `default` is the program's own name for a
file.  On standard output there are colours unless it is said that there are none; in a file there
are none unless it is said that there are. -/
def Sink.ofEnvironment (env : Environment) (default : String) : Sink :=
  let settings := LogSettings.ofEnvironment env
  let file := settings.file.map fun path => FileSink.ofPath path default
  let usual := file.isNone && (env.nonempty? "NO_COLOR").isNone
  { file, filter := .ofSetting (env "RUST_LOG"),
    style :=
      if settings.json then .json
      else if settings.ansi.getD usual then .coloured else .plain }

/-- The text that records leave behind. -/
def Sink.write (s : Sink) (time : String) (records : List Record) : String :=
  String.join ((records.filter s.filter.keeps).map (Record.line s.style time))

end VideoProbe.Logging
