/-!
Texts as a terminal without control sequences shows them: escape sequences are taken out whole, and of
the other controls only white space stays.
-/

namespace LoginGateway.Text.Terminal

/-- Where in a control sequence a text stands. -/
inductive State
  | plain
  | escape
  | intermediate
  | parameters
  | command
  | payload
deriving DecidableEq, Repr

def isBreak (c : Char) : Bool := c == '\t' || c == '\n' || c == '\x0C' || c == '\r'

def isControl (c : Char) : Bool := c.toNat < 0x20 || c.toNat == 0x7F

/-- Two controls break off any sequence. -/
def breaksOff (c : Char) : Bool := c == '\x18' || c == '\x1A'

def afterEscape (c : Char) : State :=
  if c == '[' then .parameters
  else if c == ']' then .command
  else if c == 'P' || c == 'X' || c == '^' || c == '_' then .payload
  else if c.toNat < 0x30 then .intermediate
  else .plain

/-- The state after a character, and whether the character is shown. -/
def step (s : State) (c : Char) : State × Bool :=
  if c == '\x1B' then (.escape, false)
  else if breaksOff c then (.plain, false)
  else
    match s with
    | .plain => (.plain, !isControl c || isBreak c)
    | .command => (if c == '\x07' then .plain else .command, false)
    | .payload => (.payload, false)
    | s =>
      if isBreak c then (.plain, true)
      else if isControl c then (s, false)
      else
        match s with
        | .escape => (afterEscape c, false)
        | .intermediate => (if c.toNat < 0x30 then .intermediate else .plain, false)
        | _ => (if c.toNat < 0x40 then .parameters else .plain, false)

def showFrom : State → List Char → List Char
  | _, [] => []
  | s, c :: rest =>
    match step s c with
    | (next, true) => c :: showFrom next rest
    | (next, false) => showFrom next rest

def plainText (s : List Char) : List Char := showFrom .plain s

end LoginGateway.Text.Terminal
