import LoginGateway.Settings.Environment
import LoginGateway.Text.Alphanumeric
import LoginGateway.Text.Split

/-!
A file of variables, one assignment a line. Values may be quoted, quotes may span lines, and a dollar
sign stands for the value of a variable. Reading ends at the first line that is no assignment; what
stands before it counts. Main definition: `EnvironmentFile.load`.
-/

namespace LoginGateway.Settings.EnvironmentFile

/-- How a line continues. -/
inductive Scan
  | complete
  | escape
  | single
  | singleEscape
  | double
  | doubleEscape
  | comment
  | blank
deriving DecidableEq, Repr

namespace Scan

def start (c : Char) : Scan :=
  if c == '\\' then escape
  else if c == '"' then double
  else if c == '\'' then single
  else complete

def step : Scan → Char → Scan
  | complete, c => if Text.isWhiteSpace c && c != '\n' && c != '\r' then blank else start c
  | blank, c => if c == '#' then comment else start c
  | escape, _ => complete
  | single, c => if c == '\\' then singleEscape else if c == '\'' then complete else single
  | singleEscape, _ => single
  | double, c => if c == '\\' then doubleEscape else if c == '"' then complete else double
  | doubleEscape, _ => double
  | comment, _ => comment

end Scan

/-- The part of a line before a comment, and the state at its end. -/
def scanLine : Scan → List Char → List Char × Scan
  | state, [] => ([], state)
  | state, c :: rest =>
    match state.step c with
    | .comment => ([], .comment)
    | next =>
      let (kept, last) := scanLine next rest
      (c :: kept, last)

def trimEnd (s : List Char) : List Char := Text.dropEndWhile Text.isWhiteSpace s

def skipSpace (s : List Char) : List Char := s.dropWhile Text.isWhiteSpace

def withoutLineEnd (s : List Char) : List Char :=
  if s.getLast? = some '\n' then
    let t := s.dropLast
    if t.getLast? = some '\r' then t.dropLast else t
  else s

/-- The pieces of a text, each with the line feed that ends it. -/
def physicalLines : List Char → List (List Char)
  | [] => []
  | c :: rest =>
    if c == '\n' then [c] :: physicalLines rest
    else
      match physicalLines rest with
      | [] => [[c]]
      | line :: lines => (c :: line) :: lines

/-- The lines of a file, where a line goes on as long as a quote is open. The last one is missing if
it does not come to its end. -/
def logicalLines (before : List Char) (state : Scan) :
    List (List Char) → List (Option (List Char))
  | [] => if state = .complete then [] else [none]
  | line :: lines =>
    let whole := before ++ line
    if (skipSpace whole).head? = some '#' then some [] :: logicalLines [] .complete lines
    else
      match scanLine state line with
      | (_, .complete) => some (withoutLineEnd whole) :: logicalLines [] .complete lines
      | (kept, .comment) => some (before ++ kept) :: logicalLines [] .complete lines
      | (_, next) => logicalLines whole next lines

/-- How the name behind a dollar sign is written. -/
inductive Naming
  | none
  | bare
  | braced
deriving DecidableEq, Repr

/-- What was read of a value. -/
structure Reading where
  text : List Char := []
  single : Bool := false
  double : Bool := false
  escaped : Bool := false
  ended : Bool := false
  naming : Naming := .none
  name : List Char := []

namespace Reading

def put (r : Reading) (c : Char) : Reading := { r with text := r.text ++ [c] }

/-- Puts the value of the variable that was named. -/
def substitute (env : Environment) (r : Reading) : Reading :=
  let value := (env.get? (String.ofList r.name)).getD ""
  { r with text := r.text ++ value.toList, naming := .none, name := [] }

def escape (r : Reading) (c : Char) : Option Reading :=
  if "\\'\"$ ".toList.contains c then some { r.put c with escaped := false }
  else if c == 'n' then some { r.put '\n' with escaped := false }
  else none

/-- A character behind a dollar sign. -/
def nameChar (env : Environment) (r : Reading) (c : Char) : Reading :=
  if Text.isAlphanumeric c then { r with name := r.name ++ [c] }
  else
    match r.naming with
    | .braced => if c == '\x7d' then r.substitute env else { r with name := r.name ++ [c] }
    | _ =>
      if c == '\x7b' && r.name.isEmpty then { r with naming := .braced }
      else if c == '$' then { r.substitute env with naming := .bare }
      else (r.substitute env).put c

def plain (r : Reading) (c : Char) : Reading :=
  if c == '$' then { r with naming := .bare }
  else if r.double then
    if c == '"' then { r with double := false }
    else if c == '\\' then { r with escaped := true }
    else r.put c
  else if c == '\'' then { r with single := true }
  else if c == '"' then { r with double := true }
  else if c == '\\' then { r with escaped := true }
  else if c == ' ' || c == '\t' then { r with ended := true }
  else r.put c

def step (env : Environment) (r : Reading) (c : Char) : Option Reading :=
  if r.ended then if c == ' ' || c == '\t' then some r else none
  else if r.escaped then r.escape c
  else if r.single then some (if c == '\'' then { r with single := false } else r.put c)
  else if r.naming != .none then some (r.nameChar env c)
  else some (r.plain c)

/-- A quote or a brace that stays open spoils the value. -/
def finish (env : Environment) (r : Reading) : Option String :=
  if r.naming == .braced || r.single || r.double then none
  else some (String.ofList (r.substitute env).text)

end Reading

/-- Reads a value up to a comment, which begins behind a blank. -/
def readValue (env : Environment) (r : Reading) : List Char → Option String
  | [] => r.finish env
  | c :: rest =>
    if r.ended && c == '#' then r.finish env
    else (r.step env c).bind fun next => readValue env next rest

def isKeyStart (c : Char) : Bool := c.isAlpha || c == '_'

def isKeyChar (c : Char) : Bool := c.isAlphanum || c == '_' || c == '.'

def readKey (s : List Char) : Option (List Char × List Char) :=
  if s.head?.any isKeyStart then some (s.takeWhile isKeyChar, skipSpace (s.dropWhile isKeyChar))
  else none

def behindEquals : List Char → Option (List Char)
  | '=' :: rest => some (skipSpace rest)
  | _ => none

/-- The name of an assignment, and what stands behind the equals sign. The word `export` may stand in
front of a name, and may be one. -/
def readAssignment (s : List Char) : Option (List Char × List Char) := do
  let (key, rest) ← readKey s
  match behindEquals rest with
  | some value => some (key, value)
  | none =>
    if key = "export".toList then
      let (key, rest) ← readKey rest
      let value ← behindEquals rest
      some (key, value)
    else none

/-- The name and the value that a line assigns; an empty one and a comment assign nothing. -/
def readLine (env : Environment) (line : List Char) : Option (Option (String × String)) :=
  let s := skipSpace (trimEnd line)
  if s.isEmpty || s.head? == some '#' then some none
  else do
    let (key, written) ← readAssignment s
    let value ← if written.head? == some '#' then some "" else readValue env {} written
    some (some (String.ofList key, value))

def loadLine (env : Environment) (line : List Char) : Option Environment :=
  (readLine env line).map fun assigned =>
    match assigned with
    | some (name, value) => env.setDefault name value
    | none => env

def loadLines (env : Environment) : List (Option (List Char)) → Environment
  | some line :: rest =>
    match loadLine env line with
    | some env => loadLines env rest
    | none => env
  | _ => env

def skipMark : List Char → List Char
  | '\uFEFF' :: rest => rest
  | s => s

/-- The environment with the variables of a file; those that were set before stay as they are. -/
def load (env : Environment) (file : String) : Environment :=
  loadLines env (logicalLines [] .complete (physicalLines (skipMark file.toList)))

end LoginGateway.Settings.EnvironmentFile
