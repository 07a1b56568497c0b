import LoginGateway.Url.Form
import LoginGateway.Url.Parser

/-!
References against a base: the URL that a text names for a reader who stands at another one, and
the URL with more segments on its path.
-/

namespace LoginGateway.Url

def baseSegments (base : Url) : List (List Char) :=
  match base.path with
  | .segments list => list
  | .rootless _ => []

/-- A reference without a scheme, against a base with a path of segments. -/
def joinRelative (base : Url) (s : List Char) : Except UrlError Url :=
  let special := base.isSpecial
  let path (before : List (List Char)) (text : List Char) : Url :=
    let segments := Path.extend base.kind before (text.takeWhile (!endsPath ·))
    (ofParts base.scheme base.authority (.segments segments)).withTail (text.dropWhile (!endsPath ·))
  match s with
  | [] => .ok base.withoutFragment
  | '?' :: _ => .ok ({ base with query := none, fragment := none }.withTail s)
  | '#' :: _ => .ok (base.withoutFragment.withTail s)
  | '/' :: '/' :: rest => readHierarchy base.scheme rest
  | c :: rest =>
    if Path.isSlash special c then
      if rest.head?.any (Path.isSlash special) then
        readHierarchy base.scheme (s.dropWhile (Path.isSlash special))
      else .ok (path [] rest)
    else .ok (path base.baseSegments.dropLast s)

/-- The URL that a reference names at a base. -/
def join (base : Url) (reference : List Char) : Except UrlError Url :=
  let s := clean reference
  match cutScheme? s with
  | some (scheme, rest) =>
    let slashes := (rest.takeWhile (Path.isSlash true)).length
    if SchemeKind.of scheme = .web && scheme == base.scheme && slashes < 2 then
      joinRelative base rest
    else readBehindScheme scheme rest
  | none =>
    match base.path with
    | .rootless _ => if s.head? = some '#' then joinRelative base s else .error .relativeToRootless
    | .segments _ => joinRelative base s

/-- Without the empty segment that a slash at the end leaves. -/
def popEmpty (segments : List (List Char)) : List (List Char) :=
  if 1 < segments.length && segments.getLast? == some [] then segments.dropLast else segments

/-- One more segment; it takes the place of a lone empty one. -/
def pushSegment (special : Bool) (segments : List (List Char)) (text : List Char) :
    List (List Char) :=
  let written := Percent.encode (Percent.segmentSet special) text
  if segments = [[]] then [written] else segments ++ [written]

/-- The URL with segments behind those of its path, if it has a path of segments. -/
def append? (u : Url) (texts : List (List Char)) : Option Url :=
  match u.path with
  | .rootless _ => none
  | .segments list =>
    some { u with path := .segments (texts.foldl (pushSegment u.isSpecial) (popEmpty list)) }

/-- The name and value pairs of the query. -/
def queryPairs (u : Url) : List Form.Pair := Form.decode (u.query.getD [])

end LoginGateway.Url
