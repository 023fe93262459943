import VideoProbe.Json.Record

/-!
# What an extraction finds

The metadata of a video, and the outcome of an attempt to extract it: a result or an error, never
both.  An outcome in JSON is an object with a single member that says which of the two it is.
-/

namespace VideoProbe

/-- The metadata of a video: its duration, and those of its chapters in the order of the
container, in seconds. -/
structure VideoInfo where
  duration : Float
  chapters : List Float
  deriving DecidableEq, Repr, Inhabited

namespace VideoInfo

/-- The metadata in JSON. -/
def toJson (v : VideoInfo) : Json :=
  .object [("duration_seconds", .ofFloat v.duration),
    ("chapter_durations_seconds", .array (v.chapters.map .ofFloat))]

/-- Metadata that is being read. -/
structure Draft where
  duration : Option Float := none
  chapters : Option (List Float) := none

/-- The fields of metadata. -/
def shape : Json.Shape Draft VideoInfo where
  name := "VideoInfo"
  fields := [
    .of "duration_seconds" .real Draft.duration (fun x d => { d with duration := some x }) false,
    .of "chapter_durations_seconds" (.list .real) Draft.chapters
      (fun xs d => { d with chapters := some xs }) false]
  blank := {}
  finish d := do
    let duration ← Json.require "duration_seconds" d.duration
    let chapters ← Json.require "chapter_durations_seconds" d.chapters
    return ⟨duration, chapters⟩

/-- Reads metadata. -/
def decoder : Json.Decoder VideoInfo :=
  shape.decoder

/-- Every number of the metadata is finite. -/
def IsFinite (v : VideoInfo) : Prop :=
  v.duration.isFinite = true ∧ ∀ x ∈ v.chapters, x.isFinite = true

end VideoInfo

/-- The outcome of an extraction. -/
inductive Outcome where
  | result (info : VideoInfo)
  | error (message : String)
  deriving DecidableEq, Repr

namespace Outcome

/-- The result, if the outcome is one. -/
def result? : Outcome → Option VideoInfo
  | result info => some info
  | error _ => none

/-- The error, if the outcome is one. -/
def error? : Outcome → Option String
  | result _ => none
  | error message => some message

/-- An outcome in JSON: one member. -/
def toJson : Outcome → Json
  | result info => .object [("result", info.toJson)]
  | error message => .object [("error", .str message)]

/-- An outcome is read from its one member. -/
def choice : Json.Choice Outcome where
  alternatives := [
    ("result", .carrying (VideoInfo.decoder.map result)),
    ("error", .carrying (Json.Decoder.string.map error))]

/-- Reads an outcome. -/
def decoder : Json.Decoder Outcome :=
  choice.decoder

end Outcome

end VideoProbe
