import VideoProbe.Error
import VideoProbe.Json.Record

/-!
# Errors of the interface

Every error that a handler gives is a status together with a body of two members: a code for
programs and a message for people.
-/

namespace VideoProbe.Http

/-- An error of the interface, with its message. -/
inductive ApiError where
  | badRequest (message : String)
  | payloadTooLarge (message : String)
  | conflict (message : String)
  | notFound (message : String)
  | internal (message : String)
  | unavailable (message : String)
  deriving DecidableEq, Repr

/-- The body of an error response. -/
structure ErrorBody where
  code : String
  message : String
  deriving DecidableEq, Repr

namespace ErrorBody

/-- A body in JSON. -/
def toJson (b : ErrorBody) : Json :=
  .object [("code", .str b.code), ("message", .str b.message)]

/-- A body that is being read. -/
structure Draft where
  code : Option String := none
  message : Option String := none

/-- The fields of a body. -/
def shape : Json.Shape Draft ErrorBody where
  name := "ErrorBody"
  fields := [
    .of "code" .string Draft.code (fun x d => { d with code := some x }) false,
    .of "message" .string Draft.message (fun x d => { d with message := some x }) false]
  blank := {}
  finish d := do
    let code ← Json.require "code" d.code
    let message ← Json.require "message" d.message
    return ⟨code, message⟩

/-- Reads a body. -/
def decoder : Json.Decoder ErrorBody :=
  shape.decoder

end ErrorBody

namespace ApiError

/-- The status code. -/
def status : ApiError → Nat
  | badRequest _ => 400
  | payloadTooLarge _ => 413
  | conflict _ => 409
  | notFound _ => 404
  | internal _ => 500
  | unavailable _ => 503

/-- The code for programs. -/
def code : ApiError → String
  | badRequest _ | payloadTooLarge _ => "INVALID_REQUEST"
  | conflict _ => "DUPLICATE_UUID"
  | notFound _ => "NOT_FOUND"
  | internal _ => "INTERNAL_ERROR"
  | unavailable _ => "SERVICE_UNAVAILABLE"

/-- The message for people. -/
def message : ApiError → String
  | badRequest m | payloadTooLarge m | conflict m | notFound m | internal m | unavailable m => m

/-- The body of the response. -/
def body (e : ApiError) : ErrorBody :=
  ⟨e.code, e.message⟩

/-- An error of the service as one of the interface. -/
def ofServiceError (e : ServiceError) : ApiError :=
  match e with
  | .duplicateUuid _ => conflict e.message
  | .infoNotFound _ => notFound e.message
  | _ => internal e.message

end ApiError

end VideoProbe.Http
