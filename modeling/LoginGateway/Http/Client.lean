import LoginGateway.Http.Session
import LoginGateway.Http.Target
import LoginGateway.Text.Base64

/-!
The client for outbound calls. It never repeats a call, and it follows at most ten redirections: of
those, 301, 302 and 303 go on as a GET without a body, 307 and 308 repeat method and body. The
authorization of a call is dropped as soon as host or port change.
-/

namespace LoginGateway.Http

inductive TransportError
  | unbuildable (url : Option Url)
  | unsent (url : Url)
  | redirection (url : Url)
  | cutBody
deriving DecidableEq, Repr

namespace TransportError

def atUrl (url : Url) : String := s!" for url ({url.toString})"

def message : TransportError → String
  | unbuildable none => "builder error"
  | unbuildable (some url) => "builder error" ++ atUrl url
  | unsent url => "error sending request" ++ atUrl url
  | redirection url => "error following redirect" ++ atUrl url
  | cutBody => "error decoding response body"

end TransportError

/-- An answer and the address that gave it. -/
structure Received where
  answer : Answer
  url : Url
deriving DecidableEq, Repr

namespace Received

def status (r : Received) : Status := r.answer.status

/-- The body, if it came in to its end. -/
def bytes (r : Received) : Except TransportError Bytes :=
  if r.answer.missing = 0 then .ok r.answer.body else .error .cutBody

def text (r : Received) : Except TransportError String :=
  r.bytes.map fun body => String.ofList (Utf8.decodeLossy body)

end Received

namespace Client

def userAgent : String := "social-auth/0.1.0"

def redirectLimit : Nat := 10

def isWeb (url : Url) : Bool := url.scheme == "http".toList || url.scheme == "https".toList

/-- A URL that can stand in a request line. -/
def isTarget (url : Url) : Bool := (Target.parse? url.render).isSome

/-- The name and password in a URL, if they are text. -/
def userinfo? (url : Url) : Option (List Char × List Char) := do
  let a ← url.authority
  if !a.hasUserinfo then none
  let name ← Utf8.decode? (Percent.decodeText a.username)
  let password := a.password.bind fun p => Utf8.decode? (Percent.decodeText p)
  if name.isEmpty && password.isNone then none
  some (name, password.getD [])

def basicAuthorization (name password : List Char) : String :=
  "Basic " ++ String.ofList (Text.Base64.encode (Utf8.encode (name ++ ':' :: password)))

/-- A name and password in the URL go into a header of their own, before all others. -/
def withUserinfo (url : Url) (headers : Headers) : Url × Headers :=
  match userinfo? url with
  | some (name, password) =>
    (url.withoutUserinfo, ⟨("authorization", basicAuthorization name password) :: headers.fields⟩)
  | none => (url, headers)

def withDefaults (headers : Headers) : Headers :=
  (headers.setDefault "accept" "*/*").setDefault "user-agent" userAgent

/-- A call whose header values are legal. -/
def build (method : String) (url : Url) (headers : Headers) (body : Option (List Char)) :
    Except TransportError Call :=
  let (url, headers) := withUserinfo url headers
  if headers.fields.all (isHeaderValue ·.2) then .ok { method, url, headers, body }
  else .error (.unbuildable none)

def isRedirection (status : Status) : Bool := [301, 302, 303, 307, 308].contains status.code

def keepsBody (status : Status) : Bool := [307, 308].contains status.code

/-- Where an answer sends the client on. -/
def destination? (url : Url) (answer : Answer) : Option Url :=
  if isRedirection answer.status then do
    let location ← answer.headers.get? "location"
    let next ← (url.join location.toList).toOption
    if isTarget next then some next else none
  else none

/-- Host and port are the same. -/
def samePlace (a b : Url) : Bool := a.host? == b.host? && a.port? == b.port?

/-- The page that sent the client on; a page read over an encrypted connection is not told to a plain
one. -/
def referer? (previous next : Url) : Option String :=
  if next.scheme = "http".toList ∧ previous.scheme = "https".toList then none
  else some previous.withoutUserinfo.withoutFragment.toString

def withoutBody (call : Call) : Call :=
  { call with
    method := if call.method = "HEAD" then "HEAD" else "GET"
    headers := call.headers.remove "content-type"
    body := none }

/-- The call that follows a redirection to `next`. -/
def redirected (call : Call) (status : Status) (next : Url) : Call :=
  let kept := if keepsBody status then call else withoutBody call
  let told := match referer? call.url next with
    | some page => kept.headers.set "referer" page
    | none => kept.headers
  { kept with
    url := next
    headers := if samePlace call.url next then told else told.remove "authorization" }

/-- Answers to HEAD and of some statuses have no body. -/
def withBodyOf (method : String) (answer : Answer) : Answer :=
  if method = "HEAD" ∨ answer.status.code ∈ [101, 204, 304] then
    { answer with body := [], missing := 0 }
  else answer

/-- Makes a call and follows at most `left` redirections. -/
def follow (left : Nat) (call : Call) : Session (Except TransportError Received) := do
  match ← Session.exchange call with
  | .closed => pure (.error (.unsent call.url))
  | .answer answer =>
    match destination? call.url answer with
    | none => pure (.ok ⟨withBodyOf call.method answer, call.url⟩)
    | some next =>
      match left with
      | 0 => pure (.error (.redirection call.url))
      | left + 1 =>
        if isWeb next then follow left (redirected call answer.status next)
        else pure (.error (.unbuildable (some next)))

/-- Sends a call whose address is on the web. -/
def dispatch (call : Call) : Session (Except TransportError Received) :=
  if isWeb call.url && isTarget call.url then
    follow redirectLimit { call with headers := withDefaults call.headers }
  else pure (.error (.unbuildable (some call.url)))

def send (method : String) (url : Url) (headers : Headers) (body : Option (List Char)) :
    Session (Except TransportError Received) :=
  match build method url headers body with
  | .error e => pure (.error e)
  | .ok call => dispatch call

/-- Posts name and value pairs. -/
def postForm (url : Url) (headers : Headers) (pairs : List Form.Pair) :
    Session (Except TransportError Received) :=
  send "POST" url (headers.set "content-type" "application/x-www-form-urlencoded")
    (some (Form.encode pairs))

def get (url : Url) (headers : Headers) : Session (Except TransportError Received) :=
  send "GET" url headers none

end Client

end LoginGateway.Http
