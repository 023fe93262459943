import VideoProbe.InfoJob

/-!
# Webhook jobs

The arguments of a job that delivers an outcome, and the body it delivers.
-/

namespace VideoProbe

/-- The arguments of a delivery. -/
structure WebhookArgs where
  uri : String
  token : Option Token
  uuid : Uuid
  outcome : Outcome
  deriving DecidableEq

namespace WebhookArgs

/-- The arguments in JSON. -/
def toJson (a : WebhookArgs) : Json :=
  .object ([("uri", .str a.uri)] ++ Json.optionalMember "token" Token.toJson a.token ++
    [("uuid", a.uuid.toJson), ("outcome", a.outcome.toJson)])

/-- Arguments that are being read. -/
structure Draft where
  uri : Option String := none
  token : Option (Option Token) := none
  uuid : Option Uuid := none
  outcome : Option Outcome := none

/-- The fields of the arguments. -/
def shape : Json.Shape Draft WebhookArgs where
  name := "WebhookJobArgs"
  fields := [
    .of "uri" .string Draft.uri (fun x d => { d with uri := some x }) false,
    .of "token" Token.optionalDecoder Draft.token (fun x d => { d with token := some x }) true,
    .of "uuid" .identifier Draft.uuid (fun x d => { d with uuid := some x }) false,
    .of "outcome" Outcome.decoder Draft.outcome (fun x d => { d with outcome := some x }) false]
  blank := {}
  finish d := do
    let uri ← Json.require "uri" d.uri
    let uuid ← Json.require "uuid" d.uuid
    let outcome ← Json.require "outcome" d.outcome
    return ⟨uri, d.token.join, uuid, outcome⟩

/-- Reads the arguments of a delivery. -/
def decoder : Json.Decoder WebhookArgs :=
  shape.decoder

/-- They belong to the jobs of kind *webhook*. -/
def arguments : Job.Arguments WebhookArgs :=
  ⟨.webhook, decoder⟩

end WebhookArgs

/-- The body of a webhook. -/
structure WebhookPayload where
  token : Option Token
  uuid : Uuid
  result : Option VideoInfo
  error : Option String
  deriving DecidableEq

namespace WebhookPayload

/-- A body in JSON. -/
def toJson (p : WebhookPayload) : Json :=
  .object (Json.optionalMember "token" Token.toJson p.token ++ [("uuid", p.uuid.toJson)] ++
    Json.optionalMember "result" VideoInfo.toJson p.result ++
    Json.optionalMember "error" .str p.error)

/-- A body that is being read. -/
structure Draft where
  token : Option (Option Token) := none
  uuid : Option Uuid := none
  result : Option (Option VideoInfo) := none
  error : Option (Option String) := none

/-- The fields of a body. -/
def shape : Json.Shape Draft WebhookPayload where
  name := "WebhookPayload"
  fields := [
    .of "token" Token.optionalDecoder Draft.token (fun x d => { d with token := some x }) true,
    .of "uuid" .identifier Draft.uuid (fun x d => { d with uuid := some x }) false,
    .of "result" (.optional VideoInfo.decoder) Draft.result
      (fun x d => { d with result := some x }) true,
    .of "error" (.optional .string) Draft.error (fun x d => { d with error := some x }) true]
  blank := {}
  finish d := do
    let uuid ← Json.require "uuid" d.uuid
    return ⟨d.token.join, uuid, d.result.join, d.error.join⟩

/-- Reads a body. -/
def decoder : Json.Decoder WebhookPayload :=
  shape.decoder

/-- The body of a delivery. -/
def ofArgs (a : WebhookArgs) : WebhookPayload :=
  ⟨a.token, a.uuid, a.outcome.result?, a.outcome.error?⟩

end WebhookPayload

end VideoProbe
