import LoginGateway.GitHub.SignIn
import LoginGateway.Server.Origins

/-!
Starting the server. The pass is built from the settings before anything else; a server without
a usable pass does not come up. Main definitions: `openPass` and `listen`.
-/

namespace LoginGateway.Server

open Http (Session)

def missingSetting (name : String) : Login.Failure :=
  .setting .missingCredentials s!"{name} is not set"

def registration (settings : Settings) (app key : String) : GitHub.Registration where
  app := app
  key := key
  authServer := settings.githubAuthUrl
  apiServer := settings.githubApiUrl

/-- Signing in as the settings describe it. The credentials are checked before the servers. -/
def openPass (settings : Settings) : Session (Except Login.Failure GitHub.SignIn) := do
  match settings.githubApp, settings.githubKey with
  | none, _ => pure (.error (missingSetting "GITHUB_APP"))
  | some _, none => pure (.error (missingSetting "GITHUB_KEY"))
  | some app, some key =>
    Session.write .info "service"
      (s!"GitHub pass config: app={app}, auth_url={settings.githubAuthUrl}, " ++
        s!"api_url={settings.githubApiUrl}, timeout={settings.httpTimeoutSecs}s")
    pure (GitHub.SignIn.ofRegistration (registration settings app key))

/-- Why the server cannot listen at an address. -/
inductive ListenError
  | permissionDenied
  | addressNotAvailable
deriving DecidableEq, Repr

namespace ListenError

def name : ListenError → String
  | permissionDenied => "PermissionDenied"
  | addressNotAvailable => "AddrNotAvailable"

def message : ListenError → String
  | permissionDenied => "Permission denied (os error 13)"
  | addressNotAvailable => "Cannot assign requested address (os error 99)"

end ListenError

/-- What the machine offers: the others it can reach, and whether it lets the program listen. -/
structure Machine where
  remote : Http.Remote
  listen : String → UInt16 → Except ListenError Unit

/-- Begins to listen; the outcome tells which pages may read the responses. -/
def listen (machine : Machine) (settings : Settings) : Session (Except ListenError Origins) := do
  Origins.write .info s!"CORS allowed origins: {Text.quotedList settings.allowedOrigins}"
  let origins ← Origins.ofConfigured settings.allowedOrigins
  match machine.listen settings.interface settings.port with
  | .error e => pure (.error e)
  | .ok () =>
    Origins.write .info ("Server starting... listening for connections on " ++
      s!"http://{settings.interface}:{settings.port.toNat}")
    pure (.ok origins)

end LoginGateway.Server
