import LoginGateway.Settings.Environment
import LoginGateway.Settings.Key

/-!
What the program tells about its own command line.
-/

namespace LoginGateway.Settings.Help

def versionText : String := "service 0.1.0\n"

def indent : String := "          "

def heading (k : Key) : String :=
  match k.letter? with
  | some c => s!"  -{c}, {k.usage}\n"
  | none => s!"      {k.usage}\n"

def note (label text : String) : String := " [" ++ label ++ ": " ++ text ++ "]"

/-- The variable of a setting, with the value that it has; a value of several lines is indented. -/
def variableNote (env : Environment) (k : Key) : String :=
  let value := (env.get? k.variableName).getD ""
  note "env" (k.variableName ++ "=" ++ value.replace "\n" ("\n" ++ indent))

def fallbackNote (k : Key) : String :=
  match k.fallback? with
  | some value => note "default" value
  | none => ""

def choicesNote (k : Key) : String :=
  if k.choices.isEmpty then "" else note "possible values" (", ".intercalate k.choices)

def entry (env : Environment) (k : Key) : String :=
  heading k ++ indent ++ k.purpose ++ variableNote env k ++ fallbackNote k ++ choicesNote k ++ "\n"

def text (env : Environment) : String :=
  "Usage: social_login_rs [OPTIONS]\n\nOptions:\n" ++ String.join (Key.all.map (entry env)) ++
    "  -h, --help\n" ++ indent ++ "Print help\n" ++
    "  -V, --version\n" ++ indent ++ "Print version\n"

end LoginGateway.Settings.Help
