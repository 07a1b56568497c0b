import LoginGateway.Http.Header

/-!
The token of one login. It goes into a header field of the requests that it authorizes and is shown
nowhere else.
-/

namespace LoginGateway.GitHub

structure AccessToken where
  secret : String
deriving DecidableEq

namespace AccessToken

def describe (_ : AccessToken) : String := "AccessToken(Secret([REDACTED alloc::string::String]))"

def authorize (t : AccessToken) (headers : Http.Headers) : Http.Headers :=
  headers.add "authorization" ("token " ++ t.secret)

end AccessToken

end LoginGateway.GitHub
