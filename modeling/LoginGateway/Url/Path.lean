import LoginGateway.Url.Basic

/-!
Reading a path piece by piece. A piece of one dot adds nothing and a piece of two dots takes the last
segment away; at the end of the path they leave an empty segment. In a `file` URL a drive letter is
never taken away, and no path begins with an empty segment that others follow.
-/

namespace LoginGateway.Path

def isSingleDot (piece : List Char) : Bool :=
  [".", "%2e"].any (·.toList == piece.map Char.toLower)

def isDoubleDot (piece : List Char) : Bool :=
  ["..", "%2e.", ".%2e", "%2e%2e"].any (·.toList == piece.map Char.toLower)

def isDrive : List Char → Bool
  | [c, sign] => c.isAlpha && (sign == ':' || sign == '|')
  | _ => false

def isWrittenDrive (segment : List Char) : Bool := isDrive segment && segment.getLast? == some ':'

def shorten (isFile : Bool) (segments : List (List Char)) : List (List Char) :=
  if isFile && segments.getLast?.any isWrittenDrive then segments else segments.dropLast

def emptyIf (isLast : Bool) : List (List Char) := if isLast then [[]] else []

/-- The segment that a piece without dots adds. A drive letter at the start is written with a colon. -/
def plainSegment (isFile : Bool) (before : List (List Char)) (piece : List Char) : List Char :=
  if isFile && before.isEmpty && isDrive piece then piece.take 1 ++ [':']
  else Percent.encode Percent.pathSet piece

def add (isFile : Bool) (before : List (List Char)) (piece : List Char) (isLast : Bool) :
    List (List Char) :=
  if isDoubleDot piece then shorten isFile before ++ emptyIf isLast
  else if isSingleDot piece then before ++ emptyIf isLast
  else before ++ [plainSegment isFile before piece]

def addAll (isFile : Bool) : List (List Char) → List (List Char) → List (List Char)
  | before, [] => before
  | before, [piece] => add isFile before piece true
  | before, piece :: next :: rest => addAll isFile (add isFile before piece false) (next :: rest)

def isSlash (special : Bool) (c : Char) : Bool := c == '/' || (special && c == '\\')

def dropSlash (special : Bool) : List Char → List Char
  | c :: rest => if isSlash special c then rest else c :: rest
  | [] => []

def withoutEmptyStart (segments : List (List Char)) : List (List Char) :=
  match segments.dropWhile List.isEmpty with
  | [] => [[]]
  | kept => kept

/-- The segments that follow `before`, read from a text without its leading slash. -/
def extend (kind : SchemeKind) (before : List (List Char)) (text : List Char) : List (List Char) :=
  let isFile := kind == .file
  let segments := addAll isFile before (Text.splitWhere (isSlash kind.isSpecial) text)
  if isFile then withoutEmptyStart segments else segments

/-- The path behind an authority: a special scheme has one even if nothing is written. -/
def read (kind : SchemeKind) (text : List Char) : List (List Char) :=
  if text.isEmpty && !kind.isSpecial then []
  else extend kind [] (dropSlash kind.isSpecial text)

end LoginGateway.Path
