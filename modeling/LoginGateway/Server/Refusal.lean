import LoginGateway.Http.Session
import LoginGateway.Login.Failure
import LoginGateway.Server.Message

/-!
Why a callback is turned away, and what the user then sees. The user learns whose fault it is, and no
more; the rest goes into the log.
-/

namespace LoginGateway.Server

open Http (Session)

inductive Refusal
  | failure (f : Login.Failure)
  | input
  | unauthenticated
deriving DecidableEq, Repr

namespace Refusal

def describe : Refusal → String
  | failure f => s!"Auth({f.describe})"
  | input => "Web(Input)"
  | unauthenticated => "Web(Unauthenticated)"

def write (level : Log.Level) (message : String) : Session Unit :=
  Session.write level "web::error" message

/-- A callback without a code is told so; of other failures the user learns only where they lie. -/
def respondFailure (f : Login.Failure) : Session Response :=
  match f.kind with
  | .login .missingCode => do
    let told := f.cause.getD "BAD REQUEST"
    write .info s!"Rejecting login callback: {told}"
    pure (.text .badRequest told)
  | .setting _ => do
    write .error s!"Login pass is misconfigured: {f.message}"
    pure (.text .internalServerError "INTERNAL SERVER ERROR")
  | _ => do
    write .warn s!"Login failed upstream: {f.message}"
    pure (.text .badGateway "BAD GATEWAY")

def respond : Refusal → Session Response
  | failure f => respondFailure f
  | input => pure (.text .badRequest "BAD REQUEST")
  | unauthenticated => pure (.text .unauthorized "UNAUTHORIZED")

end Refusal

end LoginGateway.Server
