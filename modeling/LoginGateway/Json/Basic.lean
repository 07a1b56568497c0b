/-!
JSON documents. Members of an object stand in the order in which they were written, and a name may
occur more than once; the last one counts.
-/

namespace LoginGateway

/-- A number is an integer only if it was written as one, without a sign before zero, and lies
between -2^63 and 2^64; any other number is kept as it was written. -/
inductive Json
  | null
  | bool (value : Bool)
  | integer (value : Int)
  | decimal (written : List Char)
  | string (text : List Char)
  | array (items : List Json)
  | object (members : List (List Char × Json))
deriving Repr

namespace Json

def isObject : Json → Bool
  | object _ => true
  | _ => false

def get? (j : Json) (name : List Char) : Option Json :=
  match j with
  | object members => (members.reverse.find? (·.1 == name)).map (·.2)
  | _ => none

/-- An integer of 64 bits with a sign. -/
def int64? : Json → Option Int
  | integer n => if n < Nat.pow 2 63 then some n else none
  | _ => none

def text? : Json → Option (List Char)
  | string s => some s
  | _ => none

end Json

end LoginGateway
