import LoginGateway.Login.Failure

/-!
An application registered with GitHub: its credentials, and the servers to talk to. Two registrations
are the same if their credentials are; the servers take no part in that.
-/

namespace LoginGateway.GitHub

structure Registration where
  app : String
  key : String
  authServer : String := "https://github.com"
  apiServer : String := "https://api.github.com"
deriving Repr

namespace Registration

def same (a b : Registration) : Bool := a.app == b.app && a.key == b.key

/-- The key is not shown. -/
def describe (r : Registration) : String :=
  "Config \x7b app: " ++ Text.quoted r.app ++
    ", key: Secret([REDACTED alloc::string::String]), auth_base_url: " ++
    Text.quoted r.authServer ++ ", api_base_url: " ++ Text.quoted r.apiServer ++ " \x7d"

/-- A server's address with more segments on its path. -/
def endpoint (server : String) (segments : List String) : Except Login.Failure Url :=
  match Url.parse server.toList with
  | .error e => .error (.setting .invalidUrl e.message)
  | .ok base =>
    match base.append? (segments.map String.toList) with
    | some url => .ok url
    | none => .error (.setting .invalidUrl s!"{server} cannot be used as a base URL")

/-- Where a code is exchanged for a token. -/
def exchangeUrl (r : Registration) : Except Login.Failure Url :=
  endpoint r.authServer ["login", "oauth", "access_token"]

/-- Where the owner of a token is read. -/
def profileUrl (r : Registration) : Except Login.Failure Url := endpoint r.apiServer ["user"]

end Registration

end LoginGateway.GitHub
