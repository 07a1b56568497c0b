/-!
Log records and their levels. A threshold admits the levels that are at least as severe as the one
it names; the threshold `off` admits none.
-/

namespace LoginGateway.Log

inductive Level
  | error
  | warn
  | info
  | debug
  | trace
deriving DecidableEq, Repr

namespace Level

def all : List Level := [error, warn, info, debug, trace]

/-- One for the most severe level, and one more for each that is less severe. -/
def rank : Level → Nat
  | error => 1
  | warn => 2
  | info => 3
  | debug => 4
  | trace => 5

def name : Level → String
  | error => "ERROR"
  | warn => "WARN"
  | info => "INFO"
  | debug => "DEBUG"
  | trace => "TRACE"

def ofName? (s : String) : Option Level := all.find? (·.name == s)

end Level

inductive Threshold
  | off
  | upTo (level : Level)
deriving DecidableEq, Repr

namespace Threshold

def all : List Threshold := off :: Level.all.map upTo

def rank : Threshold → Nat
  | off => 0
  | upTo level => level.rank

def name : Threshold → String
  | off => "OFF"
  | upTo level => level.name

def ofName? (s : String) : Option Threshold := all.find? (·.name == s)

def admits (t : Threshold) (level : Level) : Bool := level.rank ≤ t.rank

end Threshold

/-- The target names the part of the program that speaks. -/
structure Record where
  level : Level
  target : String
  message : String
deriving DecidableEq, Repr

end LoginGateway.Log
