import LoginGateway.Http.Client
import LoginGateway.Text.Quoted

/-!
Why a login did not come about: the login itself failed, a call to the provider did not get through,
or the settings are unusable. A failure may carry the text of what caused it.
-/

namespace LoginGateway.Login

/-- Why an answer of the provider was turned down. -/
inductive AnswerFault
  | unexpectedStatus (code : Nat)
  | malformedBody
  | missingAccessToken
deriving DecidableEq, Repr

inductive LoginFault
  | missingCode
  | answer (fault : AnswerFault)
  | malformedProfile
deriving DecidableEq, Repr

inductive TransportFault
  | unbuildable
  | unsent
  | network
deriving DecidableEq, Repr

inductive SettingFault
  | invalidUrl
  | missingCredentials
deriving DecidableEq, Repr

inductive FailureKind
  | login (fault : LoginFault)
  | transport (fault : TransportFault)
  | setting (fault : SettingFault)
deriving DecidableEq, Repr

structure Failure where
  kind : FailureKind
  cause : Option String
deriving DecidableEq, Repr

def AnswerFault.name : AnswerFault → String
  | unexpectedStatus code => s!"UnexpectedStatus({code})"
  | malformedBody => "MalformedBody"
  | missingAccessToken => "MissingAccessToken"

def LoginFault.name : LoginFault → String
  | missingCode => "MissingCodeParameter"
  | answer fault => s!"Upstream({fault.name})"
  | malformedProfile => "MalformedProviderPayload"

def TransportFault.name : TransportFault → String
  | unbuildable => "BuilderFailed"
  | unsent => "RequestFailed"
  | network => "Network"

def SettingFault.name : SettingFault → String
  | invalidUrl => "InvalidUrl"
  | missingCredentials => "MissingCredentials"

namespace FailureKind

def name : FailureKind → String
  | login fault => s!"Login({fault.name})"
  | transport fault => s!"Http({fault.name})"
  | setting fault => s!"Config({fault.name})"

def message : FailureKind → String
  | login fault => "Login error: " ++ fault.name
  | transport fault => "HTTP error: " ++ fault.name
  | setting fault => "Config error: " ++ fault.name

/-- The provider answered, and its answer is at fault. -/
def isAnswer : FailureKind → Bool
  | login (.answer _) => true
  | _ => false

end FailureKind

namespace Failure

def message (f : Failure) : String :=
  match f.cause with
  | some cause => s!"{f.kind.message} ({cause})"
  | none => f.kind.message

def isAnswer (f : Failure) : Bool := f.kind.isAnswer

def describe (f : Failure) : String :=
  let cause := match f.cause with
    | some cause => s!"Some({Text.quoted cause})"
    | none => "None"
  "Error \x7b source: " ++ cause ++ ", error_kind: " ++ f.kind.name ++ " \x7d"

def login (fault : LoginFault) (cause : String) : Failure := ⟨.login fault, some cause⟩

def answer (fault : AnswerFault) (cause : String) : Failure := login (.answer fault) cause

def setting (fault : SettingFault) (cause : String) : Failure := ⟨.setting fault, some cause⟩

/-- A call that could not be put together, one that got no answer, and any other trouble on the way
are told apart. -/
def ofTransport (e : Http.TransportError) : Failure :=
  let fault : TransportFault := match e with
    | .unbuildable _ => .unbuildable
    | .unsent _ => .unsent
    | .redirection _ => .network
    | .cutBody => .network
  ⟨.transport fault, some e.message⟩

end Failure

end LoginGateway.Login
