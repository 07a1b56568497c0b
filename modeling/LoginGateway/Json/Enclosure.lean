import LoginGateway.Json.Parser

/-!
Documents inside documents. One name is reserved: an object that begins with it is an enclosure,
which holds a text and stands for the document that this text writes. Main definition: `Json.read?`.
-/

namespace LoginGateway.Json

def reservedName : List Char := "$serde_json::private::RawValue".toList

def isEnclosure (members : List (List Char × Json)) : Bool :=
  members.head?.any (·.1 == reservedName)

/-- The text that is held, if nothing else is. -/
def enclosed? : List (List Char × Json) → Option (List Char)
  | [(_, string text)] => some text
  | _ => none

mutual

/-- The document with what its enclosures stand for in their places. -/
def opened? (read : List Char → Option Json) : Json → Option Json
  | array items => (openedItems? read items).map array
  | object members =>
    if isEnclosure members then (enclosed? members).bind read
    else (openedMembers? read members).map object
  | null => some null
  | bool b => some (bool b)
  | integer n => some (integer n)
  | decimal written => some (decimal written)
  | string s => some (string s)
termination_by structural j => j

def openedItems? (read : List Char → Option Json) : List Json → Option (List Json)
  | [] => some []
  | j :: items => (opened? read j).bind fun j => (openedItems? read items).map (j :: ·)
termination_by structural items => items

def openedMembers? (read : List Char → Option Json) :
    List (List Char × Json) → Option (List (List Char × Json))
  | [] => some []
  | m :: members => (openedMember? read m).bind fun m => (openedMembers? read members).map (m :: ·)
termination_by structural members => members

def openedMember? (read : List Char → Option Json) :
    List Char × Json → Option (List Char × Json)
  | (name, j) => (opened? read j).map (name, ·)
termination_by structural m => m

end

/-- What a text stands for whose enclosures hold one another at most so many levels deep. -/
def readWithin : Nat → List Char → Option Json
  | 0, _ => none
  | levels + 1, s => (parse? s).bind (opened? (readWithin levels))

/-- What a text stands for. A text is longer than all that it encloses, so there are enough levels. -/
def read? (s : List Char) : Option Json := readWithin (s.length + 1) s

end LoginGateway.Json
