import LoginGateway.Text.Number
import LoginGateway.Xml.Characters

/-!
References in written text: five named ones, and the code of a character in decimal or hexadecimal.
A written line end, in whatever form, is one line feed. A line end that is referred to stays as it
is, and so does a carriage return alone in front of a reference, or between one and the end.
-/

namespace LoginGateway.Xml

def namedReference? (name : List Char) : Option Char :=
  [("amp", '&'), ("lt", '<'), ("gt", '>'), ("quot", '"'), ("apos", '\'')].findSome? fun p =>
    if p.1.toList = name then some p.2 else none

/-- The character of a code. A code of no character stands for the replacement character. -/
def ofCode? (code : Nat) : Option Char :=
  if Nat.pow 2 32 ≤ code then none
  else
    let c := if code.isValidChar then Char.ofNat code else '\uFFFD'
    if isAllowed c then some c else none

/-- What stands for the text between an ampersand and a semicolon. -/
def reference? : List Char → Option Char
  | '#' :: 'x' :: digits =>
    if digits.isEmpty then none else (Text.numeral? 16 digits).bind ofCode?
  | '#' :: digits => if digits.isEmpty then none else (Text.numeral? 10 digits).bind ofCode?
  | name => namedReference? name

def normalizeLines : List Char → List Char
  | '\r' :: '\n' :: rest => '\n' :: normalizeLines rest
  | '\r' :: rest => '\n' :: normalizeLines rest
  | c :: rest => c :: normalizeLines rest
  | [] => []

/-- What a carriage return stands for between what is behind it and, perhaps, a reference. -/
def lineEnd (afterReference : Bool) : List Char → Char
  | [] => if afterReference then '\r' else '\n'
  | '&' :: _ => '\r'
  | _ => '\n'

def skipLineFeed : List Char → List Char
  | '\n' :: rest => rest
  | s => s

theorem length_skipLineFeed_le (s : List Char) : (skipLineFeed s).length ≤ s.length := by
  unfold skipLineFeed
  split
  · exact Nat.le_succ _
  · exact Nat.le_refl _

/-- Puts characters in place of their references and line feeds in place of line ends. -/
def resolve (afterReference : Bool) (s : List Char) : Option (List Char) :=
  match s with
  | [] => some []
  | '&' :: rest =>
    match h : Text.cutAt ';' rest with
    | (_, none) => none
    | (body, some after) =>
      have := Text.length_lt_of_cutAt h
      match reference? body, resolve true after with
      | some c, some text => some (c :: text)
      | _, _ => none
  | '\r' :: rest =>
    have := length_skipLineFeed_le rest
    (resolve false (skipLineFeed rest)).map (lineEnd afterReference rest :: ·)
  | c :: rest => (resolve false rest).map (c :: ·)
termination_by s.length

/-- The text that written characters stand for. -/
def decodeText (s : List Char) : Option (List Char) := resolve false s

/-- The value of an attribute, in which line ends and tabulators are blanks. -/
def decodeValue (s : List Char) : Option (List Char) :=
  resolve false ((normalizeLines s).map fun c => if c == '\n' || c == '\t' then ' ' else c)

end LoginGateway.Xml
