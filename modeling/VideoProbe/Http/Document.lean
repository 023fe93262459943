import VideoProbe.Http.Outline

/-!
# The description of the interface

The document that describes the interface to programs: its paths, and the shapes of what is sent
and answered.
-/

namespace VideoProbe.Http.Document

open Outline

/-- The version of the service. -/
def serviceVersion : String := "2026.10.0"

/-- A quoted word. -/
def quoted (s : String) : Outline :=
  .word ("'" ++ s ++ "'")

/-- Refers to one of the shapes of the document. -/
def shapeNamed (name : String) : String × Outline :=
  ("$ref", quoted ("#/components/schemas/" ++ name))

/-- A body in JSON of a shape. -/
def jsonOf (shape : String) : String × Outline :=
  ("content", .table [("application/json", .table [("schema", .table [shapeNamed shape])])])

/-- One of the responses to an operation. -/
def response (status description shape : String) : String × Outline :=
  ("'" ++ status ++ "'", .table [("description", .word description), jsonOf shape])

/-- An operation. -/
def operation (tag summary name : String) (input : List (String × Outline))
    (responses : List (String × Outline)) : Outline :=
  .table ([("tags", .list [.word tag]), ("summary", .word summary), ("operationId", .word name)] ++
    input ++ [("responses", .table responses)])

/-- The paths and their operations. -/
def paths : Outline :=
  .table [
    ("/health", .table [("get", operation "System"
      "Liveness plus a `SELECT 1` round trip to the database." "health_check" []
      [response "200" "Service and database are up" "HealthResponse",
       response "503" "Database unreachable" "ErrorBody"])]),
    ("/info", .table [("post", operation "Info" "Admit a new info job." "create_info"
      [("requestBody", .table [jsonOf "CreateInfoRequest", ("required", .word "true")])]
      [response "201" "Info job admitted" "InfoJob",
       response "400" "Missing, malformed or invalid body" "ErrorBody",
       response "409" "UUID already admitted" "ErrorBody",
       response "500" "Internal error" "ErrorBody"])]),
    ("/info/\x7buuid\x7d", .table [("get", operation "Info" "Current status of an info job."
      "get_info_status"
      [("parameters", .list [.table [("name", .word "uuid"), ("in", .word "path"),
        ("description", .word "UUID the job was admitted under"), ("required", .word "true"),
        ("schema", .table [("type", .word "string"), ("format", .word "uuid")])]])]
      [response "200" "Current job status" "InfoJob",
       response "400" "Malformed UUID" "ErrorBody",
       response "404" "No job admitted under this UUID" "ErrorBody",
       response "500" "Internal error" "ErrorBody"])])]

/-- A property of a shape. -/
def property (name : String) (facts : List (String × String)) : String × Outline :=
  (name, .table (facts.map fun f => (f.1, .word f.2)))

/-- A shape that is an object. -/
def object (description : Option String) (required : List String)
    (properties : List (String × Outline)) : Outline :=
  .table ([("type", .word "object")] ++
    (description.map fun d => ("description", Outline.word d)).toList ++
    [("required", .list (required.map .word)), ("properties", .table properties)])

/-- A moment. -/
def moment (name : String) : String × Outline :=
  property name [("type", "string"), ("format", "date-time")]

/-- The shapes. -/
def shapes : Outline :=
  .table [
    ("CreateInfoRequest", object (some "Request body for admitting an info job.")
      ["uuid", "video_path"]
      [property "uuid" [("type", "string"), ("format", "uuid"),
         ("description", "Client-chosen identifier, admitted at most once")],
       property "video_path" [("type", "string"),
         ("description", "Path of the video file as seen by the workers")],
       property "webhook_token" [("type", "string"), ("format", "byte"),
         ("description", "Opaque token echoed in the webhook body (base64)"), ("nullable", "true")],
       property "webhook_uri" [("type", "string"),
         ("description", "URL notified when the job finishes"), ("nullable", "true")]]),
    ("ErrorBody", object (some "Error response body returned by every endpoint.")
      ["code", "message"]
      [property "code" [("type", "string"), ("description", "Machine-readable error code"),
         ("example", "DUPLICATE_UUID")],
       property "message" [("type", "string"), ("description", "Human-readable description")]]),
    ("HealthResponse", object none ["status", "version", "database"]
      [property "database" [("type", "string"), ("example", "connected")],
       property "status" [("type", "string"), ("example", "healthy")],
       property "version" [("type", "string")]]),
    ("InfoJob", object
      (some "Client view of an info job. Derived on every query, never stored.")
      ["uuid", "status", "video_path", "created_at", "updated_at"]
      [moment "created_at",
       property "error" [("type", "string"), ("nullable", "true")],
       ("result", .table [("allOf", .list [.table [shapeNamed "VideoInfo"]]),
         ("nullable", .word "true")]),
       ("status", .table [shapeNamed "InfoStatus"]),
       moment "updated_at",
       property "uuid" [("type", "string"), ("format", "uuid")],
       property "video_path" [("type", "string")]]),
    ("InfoStatus", .table [("type", .word "string"),
      ("description", .word "Coarse client-visible status of an info job."),
      ("enum", .list (["pending", "running", "completed", "failed"].map .word))]),
    ("VideoInfo", object (some "Metadata extracted from a video file.")
      ["duration_seconds", "chapter_durations_seconds"]
      [("chapter_durations_seconds", .table [("type", .word "array"),
         ("items", .table [("type", .word "number"), ("format", .word "double")]),
         ("description", .word "Duration of each chapter in seconds, in container order")]),
       property "duration_seconds" [("type", "number"), ("format", "double"),
         ("description", "Total duration in seconds")]])]

/-- A group of operations. -/
def group (name description : String) : Outline :=
  .table [("name", .word name), ("description", .word description)]

/-- The whole document. -/
def outline : Outline :=
  .table [
    ("openapi", .word "3.0.3"),
    ("info", .table [
      ("title", .word "Video Info API"),
      ("description",
        .word "Asynchronous video metadata extraction with webhook notification"),
      ("contact", .table [("name", .word "video-info Contributors")]),
      ("license", .table [("name", .word "MIT")]),
      ("version", .word serviceVersion)]),
    ("paths", paths),
    ("components", .table [("schemas", shapes)]),
    ("tags", .list [group "Info" "Info job admission and status", group "System" "Health checks"])]

/-- The document as it is served. -/
def text : String :=
  outline.text

end VideoProbe.Http.Document
