import LoginGateway.Login.Pass
import LoginGateway.Server.Refusal
import LoginGateway.Settings.Basic

/-!
The callback: a provider sends the user here, and the pass decides. The address under which the user
came is put together from the public origin of the server, or from the host that the request names,
and from the path and query as they were written. Main definition: `Callback.answer`.
-/

namespace LoginGateway.Server.Callback

open Http (Session)

def write (level : Log.Level) (message : String) : Session Unit :=
  Session.write level "web::extractors::callback_href" message

/-- The origin under which the server is reached. Only the first host of a request counts, and only
if it is plain text. -/
def origin? (settings : Settings) (r : Request) : Option String :=
  match settings.publicBaseUrl with
  | some base => some base
  | none => ((r.headers.get? "host").filter Http.isVisible).map ("http://" ++ ·)

def address (origin : String) (r : Request) : String :=
  origin ++ String.ofList r.target.pathAndQuery

/-- The address under which the user came. -/
def url (settings : Settings) (r : Request) : Session (Except Refusal Url) := do
  match origin? settings r with
  | none =>
    write .warn "Callback request has no usable Host header"
    pure (.error .input)
  | some origin =>
    match Url.parse (address origin r).toList with
    | .error e =>
      write .warn s!"Unable to rebuild callback URI from {address origin r}: {e.message}"
      pure (.error .input)
    | .ok url =>
      write .trace s!"Callback URI: {url.toString}"
      pure (.ok url)

/-- The head that a pass may change before the identity goes out. -/
def admittedHead : Http.Head where
  status := .ok
  headers := Http.Headers.add {} "content-type" "application/json"

/-- The document of an identity. Its properties may come in any order, for which the order of their
names stands: what the document says does not depend on it. -/
def identityBody (i : Login.Identity) : String := String.ofList i.toJson.render

def welcome (pass : Login.Pass) (i : Login.Identity) : Session Response := do
  Session.write .debug "web::controller::social_login_controller"
    s!"Identity {i.urn} entered through {pass.provider.title}"
  let head := pass.exit admittedHead i
  pure { status := head.status, headers := head.headers, body := identityBody i }

def answer (settings : Settings) (pass : Login.Pass) (r : Request) : Session Response := do
  match ← url settings r with
  | .error refusal => refusal.respond
  | .ok callback =>
    match ← pass.enter callback with
    | .error f => (Refusal.failure f).respond
    | .ok none => Refusal.unauthenticated.respond
    | .ok (some identity) => welcome pass identity

end LoginGateway.Server.Callback
