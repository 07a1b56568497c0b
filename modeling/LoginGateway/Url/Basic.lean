import LoginGateway.Url.Address
import LoginGateway.Url.Domain

/-!
URLs as data: every component is held as it is written, already escaped, so that printing only puts
the separators back. A path is a list of segments, each printed behind a slash, or, in a scheme
without hierarchy, a text that does not begin with one.
-/

namespace LoginGateway

inductive Host
  | name (text : List Char)
  | ipv4 (address : Ipv4)
  | ipv6 (address : Ipv6)
deriving DecidableEq, Repr

structure Authority where
  username : List Char := []
  password : Option (List Char) := none
  host : Host
  port : Option UInt16 := none
deriving DecidableEq, Repr

inductive Path
  | rootless (text : List Char)
  | segments (list : List (List Char))
deriving DecidableEq, Repr

structure Url where
  scheme : List Char
  authority : Option Authority
  path : Path
  query : Option (List Char)
  fragment : Option (List Char)
deriving DecidableEq, Repr

/-- Why a text is no URL. -/
inductive UrlError
  | relativeWithoutBase
  | relativeToRootless
  | emptyHost
  | domainName
  | hostCharacter
  | portNumber
  | ipv4Address
  | ipv6Address
deriving DecidableEq, Repr

namespace UrlError

def message : UrlError → String
  | relativeWithoutBase => "relative URL without a base"
  | relativeToRootless => "relative URL with a cannot-be-a-base base"
  | emptyHost => "empty host"
  | domainName => "invalid international domain name"
  | hostCharacter => "invalid domain character"
  | portNumber => "invalid port number"
  | ipv4Address => "invalid IPv4 address"
  | ipv6Address => "invalid IPv6 address"

end UrlError

/-- Schemes differ in how they read an authority and a path. -/
inductive SchemeKind
  | web
  | file
  | other
deriving DecidableEq, Repr

namespace SchemeKind

def of (scheme : List Char) : SchemeKind :=
  if ["http", "https", "ws", "wss", "ftp"].any (·.toList == scheme) then web
  else if scheme = "file".toList then file
  else other

/-- A special scheme takes a backslash for a slash and has a path always. -/
def isSpecial : SchemeKind → Bool
  | other => false
  | _ => true

end SchemeKind

def defaultPort? (scheme : List Char) : Option UInt16 :=
  if scheme = "http".toList ∨ scheme = "ws".toList then some 80
  else if scheme = "https".toList ∨ scheme = "wss".toList then some 443
  else if scheme = "ftp".toList then some 21
  else none

namespace Host

def isEmpty : Host → Bool
  | name [] => true
  | _ => false

def render : Host → List Char
  | name text => text
  | ipv4 a => a.render
  | ipv6 a => '[' :: a.render ++ [']']

end Host

namespace Authority

def hasUserinfo (a : Authority) : Bool := !a.username.isEmpty || a.password.isSome

def renderUserinfo (a : Authority) : List Char :=
  if a.hasUserinfo then
    a.username ++ (match a.password with | some p => ':' :: p | none => []) ++ ['@']
  else []

def renderPort (a : Authority) : List Char :=
  match a.port with
  | some p => ':' :: Text.decimal p.toNat
  | none => []

def render (a : Authority) : List Char := a.renderUserinfo ++ a.host.render ++ a.renderPort

end Authority

namespace Path

def renderSegments (segments : List (List Char)) : List Char := segments.flatMap ('/' :: ·)

def render : Path → List Char
  | rootless text => text
  | segments list => renderSegments list

end Path

namespace Url

def kind (u : Url) : SchemeKind := .of u.scheme

def isSpecial (u : Url) : Bool := u.kind.isSpecial

def host? (u : Url) : Option Host := u.authority.map (·.host)

def port? (u : Url) : Option UInt16 := u.authority.bind (·.port) <|> defaultPort? u.scheme

def renderAuthority (u : Url) : List Char :=
  match u.authority, u.path with
  | some a, _ => "//".toList ++ a.render
  -- Two slashes would begin an authority.
  | none, .segments ([] :: _ :: _) => "/.".toList
  | none, _ => []

def renderQuery (u : Url) : List Char :=
  match u.query with
  | some q => '?' :: q
  | none => []

def renderFragment (u : Url) : List Char :=
  match u.fragment with
  | some f => '#' :: f
  | none => []

def render (u : Url) : List Char :=
  u.scheme ++ ':' :: u.renderAuthority ++ u.path.render ++ u.renderQuery ++ u.renderFragment

def toString (u : Url) : String := String.ofList u.render

/-- The same place without the name and password of its user. -/
def withoutUserinfo (u : Url) : Url :=
  { u with authority := u.authority.map fun a => { a with username := [], password := none } }

def withoutFragment (u : Url) : Url := { u with fragment := none }

end Url

end LoginGateway
