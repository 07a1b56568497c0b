import LoginGateway.Server.Callback
import LoginGateway.Server.Manual

/-!
Who answers a request. The path decides alone, letter by letter as it was written; every path takes
GET and HEAD and nothing else. Every response names the version of the server, whatever else it
carries. Main definition: `Router.answer`.
-/

namespace LoginGateway.Server

open Http (Session)

inductive Endpoint
  | health
  | callback
  | manual
  | manualPage
deriving DecidableEq, Repr

namespace Endpoint

def all : List Endpoint := [health, callback, manual, manualPage]

def path : Endpoint → String
  | health => "/health"
  | callback => "/auth/github/callback"
  | manual => Manual.path
  | manualPage => "/rapidoc"

def ofPath? (path : List Char) : Option Endpoint := all.find? (·.path.toList == path)

end Endpoint

/-- The server's settings and the pass that its callback asks. -/
structure Gateway where
  settings : Settings
  pass : Login.Pass

namespace Router

def versionName : String := "x-takes-version"

def version : String := "0.1.0"

def withVersion (r : Response) : Response :=
  { r with headers := r.headers.set versionName version }

def allowedMethods : List String := ["GET", "HEAD"]

def allowHeader (headers : Http.Headers) : Http.Headers :=
  headers.set "allow" (",".intercalate allowedMethods)

def methodNotAllowed : Response :=
  Response.withLength { status := .methodNotAllowed, headers := allowHeader {} }

/-- A response to a request for no known place states a length only if no path was asked for. -/
def notFound (target : Http.Target) : Response :=
  let r : Response := { status := .notFound }
  if target.path.head? = some '/' then r else r.withLength

def get (g : Gateway) (r : Request) : Endpoint → Session Response
  | .health => pure (.text .ok "healthy")
  | .callback => Callback.answer g.settings g.pass r
  | .manual => pure Manual.documentResponse
  | .manualPage => pure Manual.pageResponse

/-- What a place answers; to HEAD it answers without the body. -/
def visit (g : Gateway) (r : Request) (e : Endpoint) : Session Response := do
  if r.method = "GET" then
    let response ← get g r e
    pure response.withLength
  else if r.method = "HEAD" then
    let response ← get g r e
    pure response.withLength.withoutBody
  else pure methodNotAllowed

def dispatch (g : Gateway) (r : Request) : Session Response :=
  match Endpoint.ofPath? r.target.path with
  | some e => visit g r e
  | none => pure (notFound r.target)

def answer (g : Gateway) (r : Request) : Session Response := do
  let response ← dispatch g r
  pure (withVersion response)

theorem withVersion_values (r : Response) :
    (withVersion r).headers.values versionName = [version] := by
  simp [withVersion]

end Router

end LoginGateway.Server
