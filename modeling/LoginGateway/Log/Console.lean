import LoginGateway.Log.Record
import LoginGateway.Text.Lines

/-!
Log records on the console. Errors go to the error output, all else to the standard output. Unless
everything is shown, the parts of the program that only carry messages are silent.
-/

namespace LoginGateway.Log

/-- The beginnings of the targets that are silent below the lowest threshold. -/
def silentTargets : List String := ["hyper", "reqwest", "rustls", "tower", "axum", "mockito"]

def isSilent (t : Threshold) (target : String) : Bool :=
  t != .upTo .trace && silentTargets.any (target.startsWith ·)

def shows (t : Threshold) (r : Record) : Bool := t.admits r.level && !isSilent t r.target

/-- Detailed levels name the thread and the target, the most detailed one the place too, which is not
known. -/
def Record.render (r : Record) : String :=
  match r.level with
  | .debug => s!"[DEBUG] (1) {r.target}: {r.message}"
  | .trace => s!"[TRACE] (1) {r.target}: [<unknown>:<unknown>] {r.message}"
  | level => s!"[{level.name}] {r.message}"

/-- What a program leaves on its two outputs. -/
structure Output where
  standard : List String := []
  error : List String := []
deriving DecidableEq, Repr

def renderAll (records : List Record) : List String :=
  (Text.lines (records.flatMap fun r => (r.render ++ "\n").toList)).map String.ofList

/-- The lines that records leave. -/
def output (t : Threshold) (records : List Record) : Output :=
  let shown := records.filter (shows t)
  { standard := renderAll (shown.filter (·.level != .error))
    error := renderAll (shown.filter (·.level == .error)) }

end LoginGateway.Log
