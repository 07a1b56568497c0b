import LoginGateway.Url.Path

/-!
Reading a URL. Blanks around the text and tabs and line breaks inside it are skipped; what is left
is cut at its separators, and each component is brought to its written form. Main definition:
`Url.parse`.
-/

namespace LoginGateway

namespace Host

/-- The characters that no host of an unknown scheme contains. -/
def isForbidden (c : Char) : Bool :=
  "\x00\t\n\r #/:<>?@[\\]^|".toList.contains c

/-- A host in brackets, without the opening one. -/
def readBracketed (s : List Char) : Except UrlError Host :=
  match s.getLast?, Ipv6.parse? s.dropLast with
  | some ']', some a => .ok (.ipv6 a)
  | _, _ => .error .ipv6Address

/-- A host of a special scheme is an address or a domain name. -/
def readDomain (s : List Char) : Except UrlError Host :=
  match (Utf8.decode? (Percent.decodeText s)).bind Domain.toAscii? with
  | none => .error .domainName
  | some [] => .error .emptyHost
  | some domain =>
    if Ipv4.isNumeric domain then
      match Ipv4.parse? domain with
      | some a => .ok (.ipv4 a)
      | none => .error .ipv4Address
    else .ok (.name domain)

def readOther (s : List Char) : Except UrlError Host :=
  if s.any isForbidden then .error .hostCharacter
  else .ok (.name (Percent.encode Percent.controls s))

def read (special : Bool) : List Char → Except UrlError Host
  | '[' :: rest => readBracketed rest
  | s => if special then readDomain s else readOther s

end Host

namespace Url

def isBlank (c : Char) : Bool := c.toNat ≤ 0x20

def isSkipped (c : Char) : Bool := c == '\t' || c == '\n' || c == '\r'

/-- The text that counts. -/
def clean (s : List Char) : List Char := (Text.trimWhere isBlank s).filter (!isSkipped ·)

def isSchemeChar (c : Char) : Bool := c.isAlphanum || c == '+' || c == '-' || c == '.'

/-- The scheme, in lower case, and what follows its colon. -/
def cutScheme? (s : List Char) : Option (List Char × List Char) :=
  match s.head?, s.dropWhile isSchemeChar with
  | some c, ':' :: rest =>
    if c.isAlpha then some ((s.takeWhile isSchemeChar).map Char.toLower, rest) else none
  | _, _ => none

def endsPath (c : Char) : Bool := c == '?' || c == '#'

def endsAuthority (special : Bool) (c : Char) : Bool := Path.isSlash special c || endsPath c

/-- The text before the last at sign of the authority, and what follows that sign. A sign with
nothing before it counts, but a host must then follow. -/
def cutUserinfo (special : Bool) (s : List Char) :
    Except UrlError (Option (List Char) × List Char) :=
  let rest := s.dropWhile (!endsAuthority special ·)
  match Text.cutAtLast? '@' (s.takeWhile (!endsAuthority special ·)) with
  | none => .ok (none, s)
  | some ([], after) =>
    if after.isEmpty && !rest.isEmpty then .error .emptyHost else .ok (none, after ++ rest)
  | some (before, after) => .ok (some before, after ++ rest)

def readUserinfo (s : List Char) : List Char × Option (List Char) :=
  match Text.cutAt ':' s with
  | (name, some (c :: rest)) =>
    (Percent.encode Percent.userinfoSet name, some (Percent.encode Percent.userinfoSet (c :: rest)))
  | (name, _) => (Percent.encode Percent.userinfoSet name, none)

/-- The text of the host and what follows it: a colon ends it, except inside brackets. -/
def cutHost (special : Bool) (inBrackets : Bool) : List Char → List Char × List Char
  | [] => ([], [])
  | c :: rest =>
    if endsAuthority special c || (c == ':' && !inBrackets) then ([], c :: rest)
    else
      let (text, after) := cutHost special (if c == '[' then true else inBrackets && c != ']') rest
      (c :: text, after)

/-- The port behind a colon; no digits, or those of the scheme's own port, name none. -/
def readPort (scheme : List Char) (s : List Char) :
    Except UrlError (Option UInt16 × List Char) :=
  let rest := s.dropWhile Char.isDigit
  let digits := s.takeWhile Char.isDigit
  let n := (Text.numeral? 10 digits).getD 0
  if 65535 < n || rest.head?.any (!endsAuthority true ·) then .error .portNumber
  else
    let port := UInt16.ofNat n
    .ok (if digits.isEmpty || defaultPort? scheme == some port then none else some port, rest)

/-- The authority behind two slashes, and what follows it. -/
def readAuthority (scheme : List Char) (s : List Char) :
    Except UrlError (Authority × List Char) := do
  let special := (SchemeKind.of scheme).isSpecial
  let (userinfo, rest) ← cutUserinfo special s
  let (username, password) := readUserinfo (userinfo.getD [])
  let (text, rest) := cutHost special false rest
  if special && text.isEmpty then .error .emptyHost
  let host ← Host.read special text
  match rest with
  | ':' :: after =>
    if host.isEmpty then .error .emptyHost
    let (port, rest) ← readPort scheme after
    .ok ({ username, password, host, port }, rest)
  | _ =>
    let a : Authority := { username, password, host }
    if host.isEmpty && a.hasUserinfo then .error .emptyHost
    .ok (a, rest)

/-- Adds the query and the fragment to a URL without them. -/
def withTail (u : Url) : List Char → Url
  | '?' :: rest =>
    let escaped := if u.isSpecial then Percent.specialQuerySet else Percent.querySet
    let query := some (Percent.encode escaped (rest.takeWhile (· != '#')))
    match rest.dropWhile (· != '#') with
    | _ :: fragment =>
      { u with query, fragment := some (Percent.encode Percent.fragmentSet fragment) }
    | [] => { u with query }
  | '#' :: fragment => { u with fragment := some (Percent.encode Percent.fragmentSet fragment) }
  | _ => u

def ofParts (scheme : List Char) (authority : Option Authority) (path : Path) : Url :=
  { scheme, authority, path, query := none, fragment := none }

/-- The URL whose path, query and fragment follow an authority. -/
def behindAuthority (scheme : List Char) (authority : Authority) (s : List Char) : Url :=
  let segments := Path.read (.of scheme) (s.takeWhile (!endsPath ·))
  (ofParts scheme (some authority) (.segments segments)).withTail (s.dropWhile (!endsPath ·))

def readHierarchy (scheme : List Char) (s : List Char) : Except UrlError Url := do
  let (authority, rest) ← readAuthority scheme s
  .ok (behindAuthority scheme authority rest)

def noHost : Authority := { host := .name [] }

/-- A `file` URL names its host behind two slashes; a drive letter is none, nor is `localhost`, and
a path that begins with a drive letter drops the host. -/
def readFile (s : List Char) : Except UrlError Url := do
  let scheme := "file".toList
  match s with
  | a :: b :: rest =>
    if Path.isSlash true a && Path.isSlash true b then
      let text := rest.takeWhile (!endsAuthority true ·)
      if Path.isDrive text then .ok (behindAuthority scheme noHost ('/' :: rest))
      else
        let host ← if text.isEmpty then .ok (.name []) else Host.read true text
        let host := if host = .name "localhost".toList then .name [] else host
        let u := behindAuthority scheme { host } (rest.dropWhile (!endsAuthority true ·))
        match u.path with
        | .segments (first :: _) =>
          if Path.isWrittenDrive first then .ok { u with authority := some noHost } else .ok u
        | _ => .ok u
    else .ok (behindAuthority scheme noHost s)
  | _ => .ok (behindAuthority scheme noHost s)

/-- A scheme without special rules: two slashes begin an authority, one a path, and anything else
is a text of its own. -/
def readOther (scheme : List Char) : List Char → Except UrlError Url
  | '/' :: '/' :: rest => readHierarchy scheme rest
  | '/' :: rest =>
    let segments := Path.extend .other [] (rest.takeWhile (!endsPath ·))
    .ok ((ofParts scheme none (.segments segments)).withTail (rest.dropWhile (!endsPath ·)))
  | s =>
    let text := Percent.encode Percent.controls (s.takeWhile (!endsPath ·))
    .ok ((ofParts scheme none (.rootless text)).withTail (s.dropWhile (!endsPath ·)))

def readBehindScheme (scheme : List Char) (s : List Char) : Except UrlError Url :=
  match SchemeKind.of scheme with
  | .web => readHierarchy scheme (s.dropWhile (Path.isSlash true))
  | .file => readFile s
  | .other => readOther scheme s

/-- The absolute URL that a text writes. -/
def parse (s : List Char) : Except UrlError Url :=
  match cutScheme? (clean s) with
  | some (scheme, rest) => readBehindScheme scheme rest
  | none => .error .relativeWithoutBase

end Url

end LoginGateway
