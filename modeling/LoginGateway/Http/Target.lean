import LoginGateway.Text.Split
import LoginGateway.Text.Utf8

/-!
What the first line of a request asks for: a path with a query, the same behind a scheme and an
authority, an authority alone, or an asterisk. Nothing is decoded, and a fragment is dropped. Main
definition: `Target.parse?`.
-/

namespace LoginGateway.Http

inductive Target
  | origin (path : List Char) (query : Option (List Char))
  | absolute (scheme authority path : List Char) (query : Option (List Char))
  | authority (text : List Char)
  | asterisk
deriving DecidableEq, Repr

/-- What the reader of an authority has seen. Colons and percent signs of user information and of an
address in brackets are forgotten where these end. -/
structure AuthorityScan where
  colons : Nat := 0
  opened : Bool := false
  closed : Bool := false
  percent : Bool := false
  atLast : Bool := false

namespace AuthorityScan

def isAuthorityChar (c : Char) : Bool := c.isAlphanum || "!#$&'()*+,-./:;=?@[]_~".toList.contains c

def step (s : AuthorityScan) (c : Char) : Option AuthorityScan :=
  let s := { s with atLast := false }
  match c with
  | ':' => if 8 ≤ s.colons then none else some { s with colons := s.colons + 1 }
  | '[' => if s.percent || s.opened then none else some { s with opened := true }
  | ']' =>
    if s.opened && !s.closed then some { s with closed := true, colons := 0, percent := false }
    else none
  | '@' => some { s with colons := 0, percent := false, atLast := true }
  | '%' => some { s with percent := true }
  | c => if isAuthorityChar c then some s else none

def isComplete (s : AuthorityScan) : Bool :=
  s.opened == s.closed && s.colons ≤ 1 && !s.percent && !s.atLast

end AuthorityScan

namespace Target

def isAuthority (s : List Char) : Bool :=
  (s.foldlM AuthorityScan.step {}).any AuthorityScan.isComplete

def endsAuthority (c : Char) : Bool := c == '/' || c == '?' || c == '#'

def isQueryChar (c : Char) : Bool := 0x21 ≤ c.toNat && !"\"#<>".toList.contains c

def isPathChar (c : Char) : Bool :=
  (isQueryChar c && c != '?' && c != '\x60') || c == '"'

/-- A path with the query behind it. -/
def pathAndQuery? (s : List Char) : Option (List Char × Option (List Char)) :=
  let written := s.takeWhile (· != '#')
  match Text.cutAt '?' written with
  | (path, query) =>
    if path.all isPathChar && query.all (·.all isQueryChar) then some (path, query) else none

def isSchemeChar (c : Char) : Bool := c.isAlphanum || c == '+' || c == '-' || c == '.'

/-- The scheme and what follows its colon and slashes. -/
def cutScheme? (s : List Char) : Option (List Char × List Char) :=
  match s.dropWhile isSchemeChar with
  | ':' :: '/' :: '/' :: rest => some (s.takeWhile isSchemeChar, rest)
  | _ => none

/-- An absolute target needs an authority; without a scheme, the authority is all there is. -/
def parseFull? (s : List Char) : Option Target :=
  match cutScheme? s with
  | some (scheme, rest) => do
    let text := rest.takeWhile (!endsAuthority ·)
    if 64 < scheme.length || text.isEmpty || !isAuthority text then none
    let (path, query) ← pathAndQuery? (rest.dropWhile (!endsAuthority ·))
    some (.absolute scheme text path query)
  | none => if s.all (!endsAuthority ·) && isAuthority s then some (.authority s) else none

/-- The greatest length of a target in bytes. -/
def maxBytes : Nat := 65534

def parse? (s : List Char) : Option Target :=
  if maxBytes < (Utf8.encode s).length then none
  else
    match s with
    | [] => none
    | ['*'] => some .asterisk
    | '/' :: _ => (pathAndQuery? s).map fun p => .origin p.1 p.2
    | s => parseFull? s

def renderQuery : Option (List Char) → List Char
  | some query => '?' :: query
  | none => []

/-- The path that decides who answers. An absolute target without one asks for the root. -/
def path : Target → List Char
  | origin path _ => path
  | absolute _ _ path _ => if path.isEmpty then ['/'] else path
  | authority _ => []
  | asterisk => ['*']

/-- The path and the query as they were written. -/
def pathAndQuery : Target → List Char
  | origin path query => path ++ renderQuery query
  | absolute _ _ path query =>
    let written := path ++ renderQuery query
    if written.isEmpty then ['/'] else written
  | authority _ => ['/']
  | asterisk => ['*']

end Target

end LoginGateway.Http
