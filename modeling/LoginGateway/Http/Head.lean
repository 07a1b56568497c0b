import LoginGateway.Http.Header
import LoginGateway.Http.Status

/-!
The head of a response: all of it but the body.
-/

namespace LoginGateway.Http

inductive Version
  | http10
  | http11
  | http2
deriving DecidableEq, Repr

namespace Version

def all : List Version := [http10, http11, http2]

def name : Version → String
  | http10 => "HTTP/1.0"
  | http11 => "HTTP/1.1"
  | http2 => "HTTP/2.0"

def ofName? (s : String) : Option Version := all.find? (·.name == s)

end Version

structure Head where
  status : Status
  version : Version := .http11
  headers : Headers := {}
deriving DecidableEq, Repr

/-- Why a head cannot be put together. -/
inductive HeadError
  | statusCode
  | headerName
  | headerValue
deriving DecidableEq, Repr

namespace HeadError

def message : HeadError → String
  | statusCode => "invalid status code"
  | headerName => "invalid HTTP header name"
  | headerValue => "failed to parse header value"

end HeadError

namespace Head

/-- Adds a field under its name in lower case. -/
def addField (h : Head) (field : String × String) : Except HeadError Head :=
  if !isHeaderName field.1 then .error .headerName
  else if !isHeaderValue field.2 then .error .headerValue
  else .ok { h with headers := h.headers.add field.1.toLower field.2 }

def build (code : Nat) (version : Version) (fields : List (String × String)) :
    Except HeadError Head :=
  match Status.of? code with
  | none => .error .statusCode
  | some status => fields.foldlM addField { status, version }

end Head

end LoginGateway.Http
