import LoginGateway.Http.Header
import LoginGateway.Http.Status
import LoginGateway.Log.Record
import LoginGateway.Url.Join

/-!
Outbound traffic. A remote is what the program finds at the other end of its calls; a session is
a computation that may call it and may write log records. A session never takes anything back: what
it sent and what it wrote is what its parts sent and wrote, one after the other (`sent_bind`,
`log_bind`).
-/

namespace LoginGateway.Http

/-- A request to another machine. -/
structure Call where
  method : String
  url : Url
  headers : Headers := {}
  body : Option (List Char) := none
deriving DecidableEq, Repr

namespace Call

/-- The address in the request line, without fragment and user information. -/
def address (c : Call) : String := c.url.withoutUserinfo.withoutFragment.toString

def hostText (c : Call) : String :=
  match c.url.authority with
  | some a => String.ofList (a.host.render ++ a.renderPort)
  | none => ""

/-- The header fields as they go out: the host and the length of the body are added. -/
def sentHeaders (c : Call) : Headers :=
  let named := c.headers.setDefault "host" c.hostText
  match c.body with
  | some text => named.set "content-length" s!"{(Utf8.encode text).length}"
  | none => named

end Call

/-- An answer as it comes in. Bytes that its length promises may be missing when the connection
ends. -/
structure Answer where
  status : Status
  headers : Headers := {}
  body : Bytes := []
  missing : Nat := 0
deriving DecidableEq, Repr

inductive Reply
  | closed
  | answer (a : Answer)
deriving DecidableEq, Repr

namespace Reply

/-- An informational answer is not the last word, and none follows it. -/
def settled : Reply → Reply
  | answer a => if a.status.code < 200 ∧ a.status.code ≠ 101 then closed else answer a
  | closed => closed

end Reply

/-- Either nobody can be reached, or each call over plain HTTP takes the next reply, whoever it is
addressed to; when none is left, connections are closed without an answer. -/
inductive Remote
  | unreachable
  | replying (replies : List Reply)
deriving DecidableEq, Repr

/-- A value, and what happened on the way to it. -/
structure Run (α : Type) where
  value : α
  sent : List Call
  log : List Log.Record
  remote : Remote

def Session (α : Type) : Type := Remote → Run α

namespace Session

instance : Monad Session where
  pure a := fun remote => ⟨a, [], [], remote⟩
  bind x f := fun remote =>
    let first := x remote
    let second := f first.value first.remote
    ⟨second.value, first.sent ++ second.sent, first.log ++ second.log, second.remote⟩

variable {α β : Type}

@[simp] theorem pure_apply (a : α) (remote : Remote) :
    (pure a : Session α) remote = ⟨a, [], [], remote⟩ := rfl

@[simp] theorem value_bind (x : Session α) (f : α → Session β) (remote : Remote) :
    ((x >>= f) remote).value = (f (x remote).value (x remote).remote).value := rfl

@[simp] theorem sent_bind (x : Session α) (f : α → Session β) (remote : Remote) :
    ((x >>= f) remote).sent = (x remote).sent ++ (f (x remote).value (x remote).remote).sent := rfl

@[simp] theorem log_bind (x : Session α) (f : α → Session β) (remote : Remote) :
    ((x >>= f) remote).log = (x remote).log ++ (f (x remote).value (x remote).remote).log := rfl

@[simp] theorem remote_bind (x : Session α) (f : α → Session β) (remote : Remote) :
    ((x >>= f) remote).remote = (f (x remote).value (x remote).remote).remote := rfl

def write (level : Log.Level) (target message : String) : Session Unit := fun remote =>
  ⟨(), [], [⟨level, target, message⟩], remote⟩

/-- One call and the reply to it. Encrypted connections are never accepted. -/
def exchange (call : Call) : Session Reply := fun remote =>
  match remote with
  | .unreachable => ⟨.closed, [], [], .unreachable⟩
  | .replying replies =>
    if call.url.scheme = "https".toList then ⟨.closed, [], [], .replying replies⟩
    else
      match replies with
      | [] => ⟨.closed, [call], [], .replying []⟩
      | reply :: rest => ⟨reply.settled, [call], [], .replying rest⟩

end Session

end LoginGateway.Http
