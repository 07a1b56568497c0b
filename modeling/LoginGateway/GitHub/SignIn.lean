import LoginGateway.GitHub.Profile
import LoginGateway.GitHub.Registration
import LoginGateway.GitHub.TokenDocument

/-!
Signing in through GitHub. The code that a user brings back is exchanged for a token, and the token
is used once, to read who the user is. A failure of the first step is final: the second one is then
not begun. Main definition: `SignIn.enter`.
-/

namespace LoginGateway.GitHub

open Login
open Http (Session)

/-- A registration with usable servers. -/
structure SignIn where
  registration : Registration
  exchangeUrl : Url
  profileUrl : Url

namespace SignIn

/-- The address for the exchange is checked first. -/
def ofRegistration (r : Registration) : Except Failure SignIn := do
  let exchangeUrl ← r.exchangeUrl
  let profileUrl ← r.profileUrl
  .ok ⟨r, exchangeUrl, profileUrl⟩

def logTarget : String := "social_auth::providers::github"

def write (level : Log.Level) (message : String) : Session Unit :=
  Session.write level logTarget message

def missingCode : Failure := .login .missingCode "code is not provided by Github"

/-- The first `code` in the address under which the user came back. -/
def code? (callback : Url) : Option (List Char) :=
  (callback.queryPairs.find? (·.1 == "code".toList)).map (·.2)

def exchangeForm (s : SignIn) (callback : Url) (code : List Char) : List Form.Pair := [
  ("client_id".toList, s.registration.app.toList),
  ("redirect_uri".toList, callback.render),
  ("client_secret".toList, s.registration.key.toList),
  ("code".toList, code)]

def accepting (mediaType : String) : Http.Headers := Http.Headers.add {} "accept" mediaType

/-- An answer with an unexpected status is logged with what came in of its body. -/
def refuse (step log : String) (r : Http.Received) : Session Failure := do
  write .warn (log ++ r.status.describe ++ ": " ++ r.text.toOption.getD "")
  pure (.answer (.unexpectedStatus r.status.code) (step ++ r.status.describe))

/-- Exchanges a code for a token. -/
def requestToken (s : SignIn) (callback : Url) (code : List Char) :
    Session (Except Failure AccessToken) := do
  write .debug s!"Exchanging GitHub authorization code at {s.exchangeUrl.toString}"
  match ← Http.Client.postForm s.exchangeUrl (accepting "application/xml")
      (s.exchangeForm callback code) with
  | .error e =>
    write .warn "Failed to reach GitHub token endpoint:"
    pure (.error (.ofTransport e))
  | .ok r =>
    if r.status ≠ .ok then
      .error <$> refuse "token exchange returned HTTP " "GitHub token exchange returned " r
    else
      match r.text with
      | .error e => pure (.error (.ofTransport e))
      | .ok text =>
        match TokenDocument.token text with
        | .ok token => pure (.ok token)
        | .error f =>
          write .warn s!"Unusable GitHub token response: {f.message}"
          pure (.error f)

/-- The document in a body that came in to its end. -/
def document? (r : Http.Received) : Option Json :=
  r.bytes.toOption.bind fun body => (Utf8.decode? body).bind Json.read?

/-- Reads the owner of a token. -/
def readProfile (s : SignIn) (token : AccessToken) : Session (Except Failure Identity) := do
  match ← Http.Client.get s.profileUrl (token.authorize (accepting "application/json")) with
  | .error e =>
    write .warn "Failed to reach GitHub user endpoint:"
    pure (.error (.ofTransport e))
  | .ok r =>
    if r.status ≠ .ok then
      .error <$> refuse "user fetch returned HTTP " "GitHub user fetch returned " r
    else
      match document? r with
      | none =>
        write .warn "Failed to parse GitHub user response:"
        pure (.error (.answer .malformedBody Http.TransportError.cutBody.message))
      | some j =>
        if j.isObject then pure (Profile.identity j)
        else pure (.error (.answer .malformedBody "GitHub user response is not a JSON object"))

/-- The identity of the user who came back under an address. -/
def enter (s : SignIn) (callback : Url) : Session (Except Failure Identity) := do
  match code? callback with
  | none => pure (.error missingCode)
  | some code =>
    match ← s.requestToken callback code with
    | .error f => pure (.error f)
    | .ok token =>
      match ← s.readProfile token with
      | .error f => pure (.error f)
      | .ok identity =>
        write .info s!"GitHub login completed for {identity.urn}"
        pure (.ok identity)

/-- Every user who gets in has an identity, and the answer to the user goes out as it is. -/
def pass (s : SignIn) : Pass where
  provider := .github
  enter callback := (Except.map some) <$> s.enter callback
  exit head _ := head

end SignIn

end LoginGateway.GitHub
