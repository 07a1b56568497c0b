import LoginGateway.Settings.Basic

/-!
Reading the command line from left to right. A label or a letter takes its value from behind itself
or from the next argument; an argument that begins with a hyphen is never a value. A value in an
argument of its own is checked only when the next option or the end shows that it is complete, so an
argument nobody knows is reported before it. Main definition: `CommandLine.read`.
-/

namespace LoginGateway.Settings.CommandLine

/-- What was read so far: the values that are checked, and the option that is still open, with its
value if that has come. -/
structure Reading where
  given : List (Key × String) := []
  opened : Option (Key × Option String) := none

namespace Reading

def accept (r : Reading) (key : Key) (value : String) : Except Rejection Reading := do
  check key value
  .ok { r with given := r.given ++ [(key, value)] }

/-- Closes the open option. -/
def settle (r : Reading) : Except Rejection Reading :=
  match r.opened with
  | none => .ok r
  | some (key, none) => .error (.missingValue key)
  | some (key, some value) => { r with opened := none }.accept key value

/-- An option, with the value attached to it if there is one. -/
def option (r : Reading) (key : Key) (attached : Option (List Char)) :
    Except Rejection Reading := do
  let r ← r.settle
  match attached with
  | some value => r.accept key (String.ofList value)
  | none => .ok { r with opened := some (key, none) }

/-- An argument without a hyphen is the value of the open option or has no place. -/
def word (r : Reading) (s : List Char) : Except Rejection Reading :=
  match r.opened with
  | some (key, none) => .ok { r with opened := some (key, some (String.ofList s)) }
  | _ => .error (.unknownArgument (String.ofList s))

def answer (r : Reading) (told : Rejection) : Except Rejection Reading := do
  let _ ← r.settle
  .error told

end Reading

/-- The argument behind two hyphens. -/
def readLabel (env : Environment) (r : Reading) (s : List Char) : Except Rejection Reading :=
  let (name, attached) := Text.cutAt '=' s
  let flag (told : Rejection) : Except Rejection Reading :=
    match attached with
    | some value => .error (.excessValue (String.ofList value) ("--" ++ String.ofList name))
    | none => r.answer told
  match Key.ofLabel? name with
  | some key => r.option key attached
  | none =>
    if name = "help".toList then flag (.help (Help.text env))
    else if name = "version".toList then flag .version
    else .error (.unknownArgument ("--" ++ String.ofList name))

/-- A value behind a letter; an equals sign in front does not belong to it. -/
def attachedValue : List Char → Option (List Char)
  | [] => none
  | '=' :: value => some value
  | value => some value

/-- The argument behind one hyphen. -/
def readLetter (env : Environment) (r : Reading) (c : Char) (rest : List Char) :
    Except Rejection Reading :=
  match Key.ofLetter? c with
  | some key => r.option key (attachedValue rest)
  | none =>
    if c = 'h' then r.answer (.help (Help.text env))
    else if c = 'V' then r.answer .version
    else .error (.unknownArgument s!"-{c}")

def readArgument (env : Environment) (r : Reading) : List Char → Except Rejection Reading
  | '-' :: '-' :: s => readLabel env r s
  | '-' :: c :: rest => readLetter env r c rest
  | s => r.word s

/-- Behind two lone hyphens nothing is an option, and every argument is out of place. -/
def readAll (env : Environment) (r : Reading) : List String → Except Rejection Reading
  | [] => r.settle
  | "--" :: [] => r.settle
  | "--" :: next :: _ => .error (.unknownArgument next)
  | s :: rest => do
    let r ← readArgument env r s.toList
    readAll env r rest

/-- The settings that a command line and an environment give. -/
def read (arguments : List String) (env : Environment) : Except Rejection Settings := do
  let r ← readAll env {} arguments
  ofLayers r.given env

end LoginGateway.Settings.CommandLine
