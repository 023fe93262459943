import VideoProbe.Http.Endpoints

/-!
# Routes

Which endpoint a request is for.  A path that no route has is not found; a route that is asked for
by another method names the methods it has.  A route that can be asked by *GET* can be asked by
*HEAD*, and answers the same without the body.
-/

namespace VideoProbe.Http

open VideoProbe.Database

/-- The routes. -/
inductive Route where
  | info
  | infoStatus (segment : String)
  | health
  | document
  deriving DecidableEq, Repr

/-- The path in what a request is for: the part between the authority, if it has one, and the
query. -/
def pathOf (target : String) : List Char :=
  let whole := target.toList.takeWhile fun c => c != '?' && c != '#'
  match whole with
  | '/' :: _ => whole
  | ['*'] => whole
  | _ =>
    match whole.dropWhile (· != ':') with
    | ':' :: '/' :: '/' :: rest =>
      let path := rest.dropWhile (· != '/')
      if path.isEmpty then ['/'] else path
    | _ => []

/-- The route of a path. -/
def Route.ofPath? (path : List Char) : Option Route :=
  if path = "/info".toList then some info
  else if path = "/health".toList then some health
  else if path = "/openapi.yaml".toList then some document
  else
    match path with
    | '/' :: 'i' :: 'n' :: 'f' :: 'o' :: '/' :: segment =>
      if segment.isEmpty || segment.contains '/' then none
      else some (infoStatus (String.ofList segment))
    | _ => none

/-- Whether a route has a method. -/
def Route.hasMethod : Route → Method → Bool
  | info, m => m = .post
  | _, m => m = .get || m = .head

/-- The methods of a route. -/
def Route.allowed : Route → String
  | info => "POST"
  | _ => "GET,HEAD"

/-- What a route does for a request. -/
def Route.handle (r : Request) : Route → Handling Response
  | info => create r.body
  | infoStatus segment => status segment
  | health => Http.health
  | document => return describe

/-- Answers a request. -/
def respond (r : Request) : StateM Session Response := do
  match Route.ofPath? (pathOf r.target) with
  | none => return { status := 404 }
  | some route =>
    if route.hasMethod r.method then
      let response ←
        match ← (route.handle r).run with
        | .ok response => pure response
        | .error e => pure e.response
      return if r.method = .head then response.withoutBody else response
    else return { status := 405, allow := some route.allowed }

end VideoProbe.Http
