import VideoProbe.Decimal.Reading
import VideoProbe.Probe.Error
import VideoProbe.Text.Blank
import VideoProbe.Video

/-!
# What a probe prints

A probe prints a JSON document with the duration of the video and the start and end of each of its
chapters, all of them as decimal strings in seconds.  Whatever is missing counts as an empty
string, and an empty string is not a number; so a document without a duration is refused.

The metadata is the duration, and for every chapter its end minus its start, in order.  The first
time that is not a finite number is reported, with its text as it stood.
-/

namespace VideoProbe.Probe

/-- The times of a chapter. -/
structure ChapterTimes where
  start : String
  stop : String
  deriving DecidableEq, Repr

/-- The document that a probe prints. -/
structure Document where
  duration : String
  chapters : List ChapterTimes
  deriving DecidableEq, Repr

namespace ChapterTimes

/-- Times that are being read. -/
structure Draft where
  start : Option String := none
  stop : Option String := none

/-- The fields of a chapter. -/
def shape : Json.Shape Draft ChapterTimes where
  name := "ProbeChapter"
  fields := [
    .of "start_time" .string Draft.start (fun x d => { d with start := some x }) true,
    .of "end_time" .string Draft.stop (fun x d => { d with stop := some x }) true]
  blank := {}
  finish d := .ok ⟨d.start.getD "", d.stop.getD ""⟩

end ChapterTimes

/-- The fields of the part of the document about the whole video: its duration alone counts. -/
def formatShape : Json.Shape (Option String) String where
  name := "ProbeFormat"
  fields := [.of "duration" .string id (fun x _ => some x) true]
  blank := none
  finish d := .ok (d.getD "")

namespace Document

/-- A document that is being read. -/
structure Draft where
  duration : Option String := none
  chapters : Option (List ChapterTimes) := none

/-- The fields of the document. -/
def shape : Json.Shape Draft Document where
  name := "ProbeOutput"
  fields := [
    .of "format" formatShape.decoder Draft.duration (fun x d => { d with duration := some x }) true,
    .of "chapters" (.list ChapterTimes.shape.decoder) Draft.chapters
      (fun x d => { d with chapters := some x }) true]
  blank := {}
  finish d := .ok ⟨d.duration.getD "", d.chapters.getD []⟩

/-- Reads a document. -/
def decoder : Json.Decoder Document :=
  shape.decoder

end Document

/-- A time in seconds: a finite number, white space around it apart. -/
def seconds (field raw : String) : Except ProbeError Float :=
  match Decimal.float? (Text.trim raw) with
  | some x => if x.isFinite then .ok x else .error (.invalidNumber field raw)
  | none => .error (.invalidNumber field raw)

/-- The duration of a chapter. -/
def ChapterTimes.duration (c : ChapterTimes) : Except ProbeError Float := do
  let start ← seconds "chapter start time" c.start
  let stop ← seconds "chapter end time" c.stop
  return stop - start

/-- The durations of chapters, up to the first fault. -/
def chapterDurations : List ChapterTimes → Except ProbeError (List Float)
  | [] => .ok []
  | c :: rest =>
    match c.duration with
    | .error e => .error e
    | .ok x =>
      match chapterDurations rest with
      | .error e => .error e
      | .ok xs => .ok (x :: xs)

/-- The metadata of a document. -/
def Document.info (d : Document) : Except ProbeError VideoInfo :=
  match seconds "duration" d.duration with
  | .error e => .error e
  | .ok duration =>
    match chapterDurations d.chapters with
    | .error e => .error e
    | .ok chapters => .ok ⟨duration, chapters⟩

/-- The metadata in what a probe prints. -/
def parseOutput (stdout : List UInt8) : Except ProbeError VideoInfo :=
  match Document.decoder.ofOctets stdout with
  | .error r => .error (.parse r.message)
  | .ok d => d.info

end VideoProbe.Probe
