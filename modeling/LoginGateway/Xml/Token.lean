import LoginGateway.Text.Split
import LoginGateway.Xml.Characters

/-!
A document as a sequence of tags, texts and asides. Nothing is known here of how tags match. Document
types are refused. Main definition: `Token.scan`.
-/

namespace LoginGateway.Xml

/-- A name with the name of its namespace in front, if it has one. -/
structure Name where
  space : List Char
  label : List Char
deriving DecidableEq, Repr

structure Attribute where
  name : Name
  written : List Char
deriving DecidableEq, Repr

inductive Token
  | opening (name : Name) (attributes : List Attribute) (isEmpty : Bool)
  | closing (name : Name)
  | characters (written : List Char)
  | literal (content : List Char)
  | aside
deriving DecidableEq, Repr

def Name.read? (s : List Char) : Option (Name × List Char) :=
  let rest := s.dropWhile isNameChar
  match Text.splitOn ':' (s.takeWhile isNameChar) with
  | [label] => if label.head?.any isNameStart then some (⟨[], label⟩, rest) else none
  | [space, label] =>
    if (space.isEmpty || space.head?.any isNameStart) && label.head?.any isNameStart then
      some (⟨space, label⟩, rest)
    else none
  | _ => none

def isQuote (c : Char) : Bool := c == '"' || c == '\''

def Attribute.read? (s : List Char) : Option (Attribute × List Char) := do
  let (name, rest) ← Name.read? s
  match skipSpaces rest with
  | '=' :: rest =>
    match skipSpaces rest with
    | quote :: rest =>
      let written := rest.takeWhile fun c => c != quote && c != '<'
      match rest.dropWhile fun c => c != quote && c != '<' with
      | c :: after => if isQuote quote && c == quote then some (⟨name, written⟩, after) else none
      | [] => none
    | [] => none
  | _ => none

namespace Token

/-- The attributes of a tag, each behind white space, up to the end of the tag; tells whether the tag
closes itself. -/
def readAttributes (s : List Char) : Option (List Attribute × Bool × List Char) :=
  match skipSpaces s with
  | '>' :: rest => some ([], false, rest)
  | '/' :: '>' :: rest => some ([], true, rest)
  | t =>
    if s.head?.any isSpace then
      match Attribute.read? t with
      | some (a, rest) =>
        if rest.length < s.length then
          (readAttributes rest).map fun p => (a :: p.1, p.2)
        else none
      | none => none
    else none
termination_by s.length

def readOpening (s : List Char) : Option (Token × List Char) := do
  let (name, rest) ← Name.read? s
  let (attributes, isEmpty, rest) ← readAttributes rest
  some (opening name attributes isEmpty, rest)

def readClosing (s : List Char) : Option (Token × List Char) := do
  let (name, rest) ← Name.read? s
  match skipSpaces rest with
  | '>' :: rest => some (closing name, rest)
  | _ => none

/-- Two hyphens end a comment, so none stand inside. -/
def readComment (s : List Char) : Option (Token × List Char) := do
  let (content, rest) ← Text.cutBefore? "-->".toList s
  if content.getLast? = some '-' || (Text.cutBefore? "--".toList content).isSome then none
  else some (aside, rest)

/-- A declaration may only begin a document. -/
def readInstruction (s : List Char) : Option (Token × List Char) :=
  if (Text.behind? "xml " s).isSome then none
  else do
    if !s.head?.any isNameStart then none
    let (_, rest) ← Text.cutBefore? "?>".toList (s.dropWhile isNameChar)
    some (aside, rest)

def readLiteral (s : List Char) : Option (Token × List Char) :=
  (Text.cutBefore? "]]>".toList s).map fun p => (literal p.1, p.2)

def readMarkup : List Char → Option (Token × List Char)
  | '/' :: rest => readClosing rest
  | '?' :: rest => readInstruction rest
  | '!' :: rest =>
    match Text.behind? "--" rest, Text.behind? "[CDATA[" rest with
    | some rest, _ => readComment rest
    | none, some rest => readLiteral rest
    | none, none => none
  | s => readOpening s

/-- The characters up to the next tag; the end of a literal must not stand among them. -/
def readCharacters (s : List Char) : Option (Token × List Char) :=
  let written := s.takeWhile (· != '<')
  if (Text.cutBefore? "]]>".toList written).isSome then none
  else some (characters written, s.dropWhile (· != '<'))

def read? : List Char → Option (Token × List Char)
  | '<' :: rest => readMarkup rest
  | s => readCharacters s

def scan (s : List Char) : Option (List Token) :=
  if s.isEmpty then some []
  else
    match read? s with
    | some (token, rest) =>
      if rest.length < s.length then (scan rest).map (token :: ·) else none
    | none => none
termination_by s.length

end Token

end LoginGateway.Xml
