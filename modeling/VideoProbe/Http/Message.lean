import VideoProbe.Http.ApiError

/-!
# Requests and responses

What arrives at the interface and what leaves it.  Every response carries an identifier by which it
can be found in the logs: the one that came with the request, or a fresh one.
-/

namespace VideoProbe.Http

/-- The methods that the interface tells apart. -/
inductive Method where
  | get
  | head
  | post
  | other (name : String)
  deriving DecidableEq, Repr

/-- The method with a name; the case of its letters matters. -/
def Method.ofName (name : String) : Method :=
  if name = "GET" then get else if name = "HEAD" then head else if name = "POST" then post
  else other name

/-- A request. -/
structure Request where
  method : Method
  /-- What the request is for, as it was sent. -/
  target : String
  headers : List (String × String) := []
  body : List UInt8 := []

/-- A letter of ASCII in lower case, any other character as it is. -/
def lowerName (name : String) : String :=
  String.ofList (name.toList.map Char.toLower)

/-- The first header with a name, which is given in lower case. -/
def Request.header? (r : Request) (name : String) : Option String :=
  (r.headers.find? fun h => lowerName h.1 = name).map Prod.snd

/-- The identifier of a response. -/
inductive RequestId where
  /-- The request brought it along. -/
  | brought (text : String)
  | fresh
  deriving DecidableEq, Repr

/-- The header that holds the identifier. -/
def requestIdHeader : String := "x-request-id"

/-- The identifier under which a request is answered. -/
def Request.id (r : Request) : RequestId :=
  match r.header? requestIdHeader with
  | some text => .brought text
  | none => .fresh

/-- A response; `allow` lists the methods of a route that was asked for another one. -/
structure Response where
  status : Nat
  contentType : Option String := none
  allow : Option String := none
  body : String := ""
  deriving DecidableEq, Repr

namespace Response

/-- A response that carries a JSON value. -/
def json (status : Nat) (v : Json) : Response :=
  { status, contentType := some "application/json", body := v.text }

/-- A response without its body. -/
def withoutBody (r : Response) : Response :=
  { r with body := "" }

end Response

/-- The response to a request that fails. -/
def ApiError.response (e : ApiError) : Response :=
  .json e.status e.body.toJson

end VideoProbe.Http
