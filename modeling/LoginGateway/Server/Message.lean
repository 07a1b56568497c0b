import LoginGateway.Http.Head
import LoginGateway.Http.Target

/-!
Requests to the server and its responses.
-/

namespace LoginGateway.Server

/-- The values of headers are texts, so a request with bytes in a header that are not UTF-8 is not
among these. -/
structure Request where
  method : String
  target : Http.Target
  headers : Http.Headers := {}
  body : List Char := []
deriving DecidableEq, Repr

namespace Request

/-- A request as it was written, if its method, its target and its header fields are legal. -/
def read? (method target : String) (fields : List (String × String)) (body : String) :
    Option Request := do
  if !Http.isToken method then none
  let target ← Http.Target.parse? target.toList
  if !fields.all fun f => Http.isHeaderName f.1 && Http.isHeaderValue f.2 then none
  some {
    method
    target
    headers := ⟨fields.map fun f => (f.1.toLower, f.2)⟩
    body := body.toList }

end Request

structure Response where
  status : Http.Status
  headers : Http.Headers := {}
  body : String := ""
deriving DecidableEq, Repr

namespace Response

/-- A response of plain text. -/
def text (status : Http.Status) (body : String) : Response where
  status := status
  headers := Http.Headers.add {} "content-type" "text/plain; charset=utf-8"
  body := body

/-- States the length of the body, unless a length is stated. -/
def withLength (r : Response) : Response :=
  { r with headers := r.headers.setDefault "content-length" s!"{r.body.utf8ByteSize}" }

def withoutBody (r : Response) : Response := { r with body := "" }

end Response

end LoginGateway.Server
