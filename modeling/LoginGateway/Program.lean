import LoginGateway.Log.Console
import LoginGateway.Server.Launch
import LoginGateway.Settings.CommandLine
import LoginGateway.Settings.EnvironmentFile

/-!
The program from its arguments to its end. It ends at once if the command line asks for a text or is
wrong, if no pass can be built, or if it cannot listen; otherwise it goes on running.
-/

namespace LoginGateway.Program

open Http (Session)

inductive Outcome
  | exited (code : Nat) (output : Log.Output)
  | running (output : Log.Output)
deriving DecidableEq, Repr

def write (level : Log.Level) (message : String) : Session Unit :=
  Session.write level "social_login_rs" message

/-- Starts the server; tells whether it runs. -/
def start (machine : Server.Machine) (settings : Settings) : Session Bool := do
  write .info s!"Starting up social login server [{settings.stage.name} environment]"
  match ← Server.openPass settings with
  | .error f =>
    write .error s!"Failed to set up the GitHub login pass: {f.message}"
    pure false
  | .ok _ =>
    match ← Server.listen machine settings with
    | .error e =>
      write .error s!"Server stopped: {e.message}"
      pure false
    | .ok _ => pure true

/-- Answers go to the standard output, mistakes to the error output. -/
def rejected (r : Settings.Rejection) : Outcome :=
  if r.isAnswer then
    .exited 0 { standard := (Text.lines r.message.toList).map String.ofList }
  else .exited 2 { error := [r.message] }

/-- The file of variables is read before the command line. -/
def run (machine : Server.Machine) (arguments : List String) (env : Settings.Environment)
    (file : Option String) : Outcome :=
  let env := match file with
    | some text => Settings.EnvironmentFile.load env text
    | none => env
  match Settings.CommandLine.read arguments env with
  | .error r => rejected r
  | .ok settings =>
    let started := start machine settings machine.remote
    let output := Log.output settings.logThreshold started.log
    if started.value then .running output else .exited 1 output

end LoginGateway.Program
