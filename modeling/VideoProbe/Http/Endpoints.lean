import VideoProbe.Admission
import VideoProbe.Http.Document
import VideoProbe.Http.Message
import VideoProbe.Http.Uri
import VideoProbe.Text.Blank
import VideoProbe.Text.Percent
import VideoProbe.Text.Quoted

/-!
# Endpoints

What the interface can be asked: to admit a job, to tell the status of one, whether the service is
well, and how the interface is described.

A request to admit a job passes three gates before the database hears of it: its body is not too
long, it can be read, and what it says makes sense.  Behind the gates a failure is the database's.
-/

namespace VideoProbe.Http

open VideoProbe.Database

/-- Work that ends with a result or with an error of the interface. -/
abbrev Handling := ExceptT ApiError (StateM Session)

/-- The message for people when work crashes. -/
def crashMessage : String := "Internal server error"

/-- The failure of an operation as an error of the interface. -/
def ApiError.ofFailure : Failure → ApiError
  | .error e => .ofServiceError e
  | .crash => .internal crashMessage

/-- Work with the database as work of the interface. -/
def handled (op : Operation α) : Handling α := fun s =>
  match op.run s with
  | (.ok a, s) => (.ok a, s)
  | (.error f, s) => (.error (.ofFailure f), s)

/-! ## Admission -/

/-- The longest body that is read, in octets. -/
def maxBodyLength : Nat := 65536

/-- White space of ASCII: tab, line feed, form feed, carriage return, space. -/
def isBlankOctet (b : UInt8) : Bool :=
  b == 0x09 || b == 0x0A || b == 0x0C || b == 0x0D || b == 0x20

/-- The error of a request without a body. -/
def bodyRequired : ApiError :=
  .badRequest "Request body is required"

/-- Reads the body of a request.  A body that is empty, or says *null*, is told apart from one that
cannot be read. -/
def readBody (body : List UInt8) : Except ApiError InfoRequest :=
  if maxBodyLength < body.length then
    .error (.payloadTooLarge "Failed to buffer the request body: length limit exceeded")
  else if body.all isBlankOctet then .error bodyRequired
  else
    match (Json.Decoder.optional InfoRequest.decoder).ofOctets body with
    | .error r => .error (.badRequest ("Invalid request body: " ++ r.message))
    | .ok none => .error bodyRequired
    | .ok (some r) => .ok r

/-- Whether a webhook can be addressed by a text. -/
def isWebhookAddress (s : String) : Bool :=
  Uri.isWebAddress (Text.Utf8.ofString s)

/-- Checks what a request says. -/
def validate (r : InfoRequest) : Except ApiError Unit :=
  if Text.isAllBlank r.videoPath then .error (.badRequest "video_path must not be empty")
  else
    match r.webhookUri with
    | none => .ok ()
    | some uri =>
      if isWebhookAddress uri then .ok ()
      else
        .error (.badRequest
          ("webhook_uri must be an absolute http or https URL: " ++ Text.quote uri))

/-- The request in a body, if it passes all gates. -/
def acceptBody (body : List UInt8) : Except ApiError InfoRequest := do
  let r ← readBody body
  validate r
  return r

/-- Admits a job. -/
def create (body : List UInt8) : Handling Response :=
  match acceptBody body with
  | .error e => throw e
  | .ok r => do
    let view ← handled (Admission.submit r.toArgs)
    return .json 201 view.toJson

/-! ## Status -/

/-- The UUID in a segment of a path. -/
def uuidOfSegment (segment : String) : Except ApiError Uuid :=
  let refuse := fun (reason : String) =>
    Except.error (ApiError.badRequest ("Invalid UUID: Invalid URL: " ++ reason))
  match Text.Utf8.decode? (Text.Percent.decode (Text.Utf8.ofString segment)) with
  | none => refuse "Invalid UTF-8 in `uuid`"
  | some cs =>
    match Uuid.parse (String.ofList cs) with
    | .error e => refuse e.message
    | .ok u => .ok u

/-- Tells the status of a job. -/
def status (segment : String) : Handling Response :=
  match uuidOfSegment segment with
  | .error e => throw e
  | .ok u => do
    let view ← handled (Admission.status u)
    return .json 200 view.toJson

/-! ## Health and description -/

/-- Tells whether the service is well: it is if the database answers. -/
def health : Handling Response := fun s =>
  match ping.run s with
  | (.ok _, s) =>
    (.ok (.json 200 (.object [("status", .str "healthy"), ("version", .str Document.serviceVersion),
      ("database", .str "connected")])), s)
  | (.error (.error e), s) => (.error (.unavailable ("database unavailable: " ++ e.message)), s)
  | (.error .crash, s) => (.error (.internal crashMessage), s)

/-- Describes the interface. -/
def describe : Response :=
  { status := 200, contentType := some "application/yaml", body := Document.text }

end VideoProbe.Http
