import LoginGateway.Http.Head
import LoginGateway.Json.Parser
import LoginGateway.Login.Failure
import LoginGateway.Login.Identity

/-!
A pass lets users in. It is shown the address under which a user came back from the provider, and it
has the last word on the head of the answer to a user it let in.
-/

namespace LoginGateway.Login

inductive Provider
  | github
deriving DecidableEq, Repr

namespace Provider

def all : List Provider := [github]

/-- The name in identities and documents. -/
def name : Provider → String
  | github => "github"

/-- The name in log lines. -/
def title : Provider → String
  | github => "Github"

def ofName? (s : List Char) : Option Provider := all.find? (·.name.toList == s)

def toJson (p : Provider) : Json := .string p.name.toList

/-- The name alone, or as the only member of an object, without a value. -/
def ofJson? : Json → Option Provider
  | .string s => ofName? s
  | .object [(s, .null)] => ofName? s
  | _ => none

end Provider

structure Pass where
  provider : Provider
  enter : Url → Http.Session (Except Failure (Option Identity))
  exit : Http.Head → Identity → Http.Head

end LoginGateway.Login
