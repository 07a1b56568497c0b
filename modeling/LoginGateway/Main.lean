import LoginGateway.Program

/-!
The command line. It finds the arguments, the variables and the file of variables around it, hands
them to the program, and prints what the program says. No network stands behind it: it reaches
nobody, and no address is its own.
-/

open LoginGateway

namespace LoginGateway.CommandLine

def offline : Server.Machine where
  remote := .unreachable
  listen _ _ := .error .addressNotAvailable

/-- The names that a file of variables may set or ask for. A bare reference ends before an underscore. -/
def namesIn (file : String) : List String :=
  let wordsOf (isPart : Char → Bool) : List String :=
    (Text.splitWhere (!isPart ·) file.toList).map String.ofList
  wordsOf Text.isAlphanumeric ++
    wordsOf fun c => Text.isAlphanumeric c || c == '_' || c == '.'

/-- The variables of these names that are set. -/
def environmentOf (names : List String) : IO Settings.Environment := do
  let found ← names.eraseDups.filterMapM fun name => do
    pure ((← IO.getEnv name).map (name, ·))
  pure ⟨found⟩

/-- The file of variables in this directory, or in the nearest one above it that has one. -/
def readNearest (place : String) : Nat → IO (Option String)
  | 0 => pure none
  | above + 1 => do
    try
      pure (some (← IO.FS.readFile (place ++ ".env")))
    catch _ => readNearest (place ++ "../") above

def print (output : Log.Output) : IO Unit := do
  output.standard.forM IO.println
  output.error.forM IO.eprintln

end LoginGateway.CommandLine

open LoginGateway.CommandLine in
def main (arguments : List String) : IO UInt32 := do
  let depth := (Text.splitOn '/' (← IO.currentDir).toString.toList).length
  let file ← readNearest "" depth
  let env ← environmentOf (Settings.Key.all.map (·.variableName) ++ (file.map namesIn).getD [])
  match Program.run offline arguments env file with
  | .exited code output =>
    print output
    pure (UInt32.ofNat code)
  | .running output =>
    print output
    pure 0
