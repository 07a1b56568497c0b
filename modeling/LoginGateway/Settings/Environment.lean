/-!
The variables that a program finds around it, each name once.
-/

namespace LoginGateway.Settings

structure Environment where
  entries : List (String × String) := []
deriving Repr

namespace Environment

def get? (env : Environment) (name : String) : Option String := env.entries.lookup name

/-- A variable that is set stays as it is. -/
def setDefault (env : Environment) (name value : String) : Environment :=
  if (env.get? name).isSome then env else ⟨env.entries ++ [(name, value)]⟩

end Environment

end LoginGateway.Settings
