import VideoProbe.Extraction
import VideoProbe.Http.Message
import VideoProbe.Http.Uri
import VideoProbe.Url.Parser

/-!
# Delivery

What a worker does with a webhook job: it sends the outcome to the address that the client named,
and looks at the status of the answer.  A redirection is followed, up to ten times.  Three kinds of
redirection turn the request into one that asks and carries no body, two repeat it as it is.

The other side is a script of replies, given out one after another; where none is left the answer is
*200*.  So everything that can be said about a delivery is said for every sequence of replies.
-/

namespace VideoProbe

namespace Delivery

variable [Url.DomainRules]

/-- What the other side does with a request. -/
inductive Reply where
  /-- It answers, and may name another location. -/
  | answer (status : Nat) (location : Option String)
  /-- It does not answer in time. -/
  | silence
  /-- It closes the connection without an answer. -/
  | hangUp
  deriving DecidableEq, Repr

/-- A request on its way. -/
structure Outgoing where
  method : Http.Method
  url : Url
  /-- What the body is said to be; a request without a body says nothing. -/
  contentType : Option String
  /-- The body of a request that posts; a request that only asks has none. -/
  body : Option String
  deriving DecidableEq, Repr

/-- A request that posts JSON. -/
def Outgoing.posting (url : Url) (body : String) : Outgoing where
  method := .post
  url := url
  contentType := some "application/json"
  body := some body

/-- A request that only asks, at the same place. -/
def Outgoing.asking (r : Outgoing) : Outgoing where
  method := .get
  url := r.url
  contentType := none
  body := none

/-- The other side, and the way to it. -/
structure Peer where
  reachable : Bool
  replies : List Reply := []
  /-- The requests that arrived so far, in order. -/
  seen : List Outgoing := []

/-- Why there is no answer. -/
inductive Fault where
  /-- The address is no URL. -/
  | malformed
  /-- A request cannot be addressed to a URL. -/
  | unaddressable (url : String)
  /-- The request does not arrive, or is not answered. -/
  | unsent (url : String)
  /-- Too many redirections. -/
  | endless (url : String)
  deriving DecidableEq, Repr

/-- A fault in words. -/
def Fault.message : Fault → String
  | malformed => "builder error"
  | unaddressable url => "builder error for url (" ++ url ++ ")"
  | unsent url => "error sending request for url (" ++ url ++ ")"
  | endless url => "error following redirect for url (" ++ url ++ ")"

/-- Whether a request can be addressed to a URL. -/
def isAddressable (url : Url) : Bool :=
  Http.Uri.isWebAddress (Text.Utf8.ofString url.text)

/-- A URL of one of the two schemes that requests are sent by. -/
def isOfWeb (url : Url) : Bool :=
  url.scheme == "http" || url.scheme == "https"

/-- Hands a request to the other side. -/
def Peer.exchange (p : Peer) (r : Outgoing) : Reply × Peer :=
  match p.replies with
  | [] => (.answer 200 none, { p with seen := p.seen ++ [r] })
  | reply :: replies => (reply, { p with replies, seen := p.seen ++ [r] })

/-- The request that a redirection asks for, its URL apart; none if the status is no redirection. -/
def redirection? (status : Nat) (r : Outgoing) : Option Outgoing :=
  if status = 301 ∨ status = 302 ∨ status = 303 then some r.asking
  else if status = 307 ∨ status = 308 then some r
  else none

/-- The request that an answer redirects to, if it does and names a location that a request can be
addressed to. -/
def redirected (r : Outgoing) (status : Nat) (location : Option String) : Option Outgoing :=
  match redirection? status r, location with
  | some next, some text =>
    match r.url.join text with
    | .ok url =>
      if Http.Uri.isSendable (Text.Utf8.ofString url.text) then some { next with url } else none
    | .error _ => none
  | _, _ => none

/-- How many redirections are followed. -/
def maxRedirects : Nat := 10

/-- Sends a request and follows redirections, at most as many as given; answers with the last
status. -/
def send : Nat → Outgoing → Peer → Except Fault Nat × Peer
  | left, r, p =>
    if !p.reachable then (.error (.unsent r.url.text), p)
    else
      match p.exchange r with
      | (.silence, p) | (.hangUp, p) => (.error (.unsent r.url.text), p)
      | (.answer status location, p) =>
        match redirected r status location with
        | none => (.ok status, p)
        | some next =>
          match left with
          | 0 => (.error (.endless r.url.text), p)
          | left + 1 =>
            if isOfWeb next.url then send left next p
            else (.error (.unaddressable next.url.text), p)

/-- Posts a body to an address. -/
def post (address body : String) (p : Peer) : Except Fault Nat × Peer :=
  match Url.parse address with
  | .error _ => (.error .malformed, p)
  | .ok url =>
    if !url.hasHost then (.error (.unaddressable url.text), p)
    else
      let url := url.withoutUserinfo
      if isOfWeb url && isAddressable url then send maxRedirects (.posting url body) p
      else (.error (.unaddressable url.text), p)

/-- A status of success. -/
def isSuccess (status : Nat) : Bool :=
  200 ≤ status && status ≤ 299

/-- Delivers an outcome, or says why another attempt is needed. -/
def deliver (args : WebhookArgs) (p : Peer) : Except String Unit × Peer :=
  match post args.uri (WebhookPayload.ofArgs args).toJson.text p with
  | (.error f, p) => (.error ("webhook request failed: " ++ f.message), p)
  | (.ok status, p) =>
    if isSuccess status then (.ok (), p)
    else (.error ("webhook returned HTTP " ++ Decimal.ofNat status), p)

/-- Executes a webhook job. -/
def execute (job : Job) (cancelled : Bool) (p : Peer) : HandlerResult × Peer :=
  match job.readArgs WebhookArgs.arguments with
  | .error e => (.failed ("Invalid webhook job arguments: " ++ e.message), p)
  | .ok args =>
    if cancelled then (.retry "Webhook delivery cancelled by worker shutdown", p)
    else
      match deliver args p with
      | (.ok _, p) => (.success none, p)
      | (.error reason, p) => (.retry reason, p)

end Delivery

end VideoProbe
