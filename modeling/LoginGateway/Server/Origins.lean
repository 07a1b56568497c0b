import LoginGateway.Server.Router
import LoginGateway.Text.Alphanumeric

/-!
Which pages of other origins may read the responses. A wildcard among the configured origins opens
the server to all of them, without credentials; otherwise an origin must be listed, and credentials
are allowed. The server answers preflight requests itself, before any place is looked up. Main
definition: `Origins.answer`.
-/

namespace LoginGateway.Server

open Http (Session)

inductive Origins
  | all
  | listed (origins : List String)
deriving DecidableEq, Repr

namespace Origins

def isWildcard (origin : String) : Bool := Text.trimWhere Text.isWhiteSpace origin.toList == ['*']

def write (level : Log.Level) (message : String) : Session Unit :=
  Session.write level "web" message

/-- Of the configured origins, those that can stand in a header. -/
def legal : List String → Session (List String)
  | [] => pure []
  | origin :: rest => do
    if Http.isHeaderValue origin then
      let others ← legal rest
      pure (origin :: others)
    else
      write .warn s!"Ignoring invalid CORS origin: {origin}"
      legal rest

def ofConfigured (origins : List String) : Session Origins := do
  if origins.any isWildcard then
    write .warn "Wildcard CORS origin configured, allowing any origin without credentials"
    pure .all
  else .listed <$> legal origins

def vary : String := "origin, access-control-request-method, access-control-request-headers"

/-- What the response to a request from an origin says about it. -/
def headers (o : Origins) (origin : Option String) : Http.Headers :=
  match o with
  | all => Http.Headers.add {} "access-control-allow-origin" "*"
  | listed origins =>
    let admitted := match origin.filter origins.contains with
      | some origin => Http.Headers.add {} "access-control-allow-origin" origin
      | none => {}
    admitted.add "access-control-allow-credentials" "true"

/-- The response to a preflight request; a known place names its methods as always. -/
def preflight (o : Origins) (r : Request) : Response :=
  let told := (((o.headers (r.headers.get? "origin")).add "vary" vary).add
    "access-control-allow-methods" "GET").add "access-control-allow-headers" "accept,content-type"
  if (Endpoint.ofPath? r.target.path).isSome then
    Response.withLength { status := .ok, headers := Router.allowHeader told }
  else { status := .ok, headers := told }

def withHeaders (o : Origins) (r : Request) (response : Response) : Response :=
  let varied := response.headers.add "vary" vary
  { response with headers := varied.override (o.headers (r.headers.get? "origin")) }

def answer (o : Origins) (g : Gateway) (r : Request) : Session Response := do
  if r.method = "OPTIONS" then pure (o.preflight r)
  else
    let response ← Router.answer g r
    pure (o.withHeaders r response)

end Origins

end LoginGateway.Server
