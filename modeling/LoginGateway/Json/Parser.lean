import LoginGateway.Json.Basic
import LoginGateway.Text.Number

/-!
Reading JSON. A reader takes a value off the front of a text and returns the rest. Values are nested
at most 127 deep, and a number must not overflow when it is made a double of. Main definition:
`Json.parse?`.
-/

namespace LoginGateway.Json

def isBlank (c : Char) : Bool := c == ' ' || c == '\n' || c == '\t' || c == '\r'

def skipBlanks (s : List Char) : List Char := s.dropWhile isBlank

def hexQuad? (a b c d : Char) : Option Nat := Text.numeral? 16 [a, b, c, d]

def simpleEscape? : Char → Option Char
  | '"' => some '"'
  | '\\' => some '\\'
  | '/' => some '/'
  | 'b' => some '\x08'
  | 'f' => some '\x0C'
  | 'n' => some '\n'
  | 'r' => some '\r'
  | 't' => some '\t'
  | _ => none

def isLead (n : Nat) : Bool := 0xD800 ≤ n && n < 0xDC00

def isTrail (n : Nat) : Bool := 0xDC00 ≤ n && n < 0xE000

/-- The character that two halves of a surrogate pair stand for. -/
def paired? (lead trail : Nat) : Option Char :=
  if isLead lead && isTrail trail then
    some (Char.ofNat (0x10000 + (lead - 0xD800) * 0x400 + (trail - 0xDC00)))
  else none

def unpaired? (n : Nat) : Option Char :=
  if isLead n || isTrail n then none else some (Char.ofNat n)

/-- The characters of a string up to its closing quote, without the opening one. -/
def readText : List Char → Option (List Char × List Char)
  | '"' :: rest => some ([], rest)
  | '\\' :: 'u' :: a :: b :: c :: d :: '\\' :: 'u' :: e :: f :: g :: h :: rest =>
    match hexQuad? a b c d with
    | none => none
    | some n =>
      if isLead n then do
        let x ← (hexQuad? e f g h).bind (paired? n)
        let (text, rest) ← readText rest
        some (x :: text, rest)
      else do
        let x ← unpaired? n
        let (text, rest) ← readText ('\\' :: 'u' :: e :: f :: g :: h :: rest)
        some (x :: text, rest)
  | '\\' :: 'u' :: a :: b :: c :: d :: rest => do
    let x ← (hexQuad? a b c d).bind unpaired?
    let (text, rest) ← readText rest
    some (x :: text, rest)
  | '\\' :: c :: rest => do
    let x ← simpleEscape? c
    let (text, rest) ← readText rest
    some (x :: text, rest)
  | c :: rest =>
    if c.toNat < 0x20 || c == '\\' then none
    else do
      let (text, rest) ← readText rest
      some (c :: text, rest)
  | [] => none

/-- The parts of a number as written. -/
structure Numeral where
  negative : Bool
  whole : List Char
  fraction : Option (List Char)
  exponent : Option Int

namespace Numeral

/-- Halfway between the greatest double and the next power of two: from here on, rounding to a double
overflows. -/
def bound : Nat := Nat.pow 2 1024 - Nat.pow 2 970

/-- The double nearest to a number, and of two that are as near the one whose last bit is zero. -/
def nearestDouble (n : Nat) : Nat :=
  let unit := Nat.pow 2 (n.log2 - 52)
  let steps := n / unit
  let left := n % unit
  if unit < 2 * left || (2 * left == unit && steps % 2 == 1) then (steps + 1) * unit
  else steps * unit

/-- Takes digits to a number as long as it stays within 64 bits, and leaves the others. -/
def gather (n : Nat) : List Char → Nat × List Char
  | [] => (n, [])
  | c :: rest =>
    let next := n * 10 + (Text.digitValue? c).getD 0
    if next < Nat.pow 2 64 then gather next rest else (n, c :: rest)

/-- The number as it is kept without its sign: 64 bits, and the power of ten to multiply them by. Of
the digits that do not fit, those in front of the point raise the power, and those behind it are
dropped. -/
def scaled (n : Numeral) : Nat × Int :=
  let fraction := n.fraction.getD []
  let front := gather 0 n.whole
  let all := gather front.1 fraction
  (all.1, n.exponent.getD 0 + front.2.length + all.2.length - fraction.length)

/-- The double of the 64 bits times the double of the power of ten overflows. Powers are known up to
308; where the power is negative, the bits are divided. -/
def isTooLarge (n : Numeral) : Bool :=
  let (significand, power) := n.scaled
  0 < significand && 0 ≤ power &&
    (308 < power || bound ≤ nearestDouble significand * nearestDouble (Nat.pow 10 power.toNat))

def integer? (n : Numeral) : Option Int :=
  if n.fraction.isSome || n.exponent.isSome then none
  else
    let value := (Text.numeral? 10 n.whole).getD 0
    if n.negative then if 0 < value ∧ value ≤ Nat.pow 2 63 then some (-value) else none
    else if value < Nat.pow 2 64 then some value else none

end Numeral

/-- The digits behind a point, if there is one. -/
def readFraction : List Char → Option (Option (List Char) × List Char)
  | '.' :: rest =>
    let digits := rest.takeWhile Char.isDigit
    if digits.isEmpty then none else some (some digits, rest.dropWhile Char.isDigit)
  | s => some (none, s)

def readSign : List Char → Bool × List Char
  | '+' :: rest => (false, rest)
  | '-' :: rest => (true, rest)
  | s => (false, s)

def readExponent : List Char → Option (Option Int × List Char)
  | [] => some (none, [])
  | c :: rest =>
    if c == 'e' || c == 'E' then
      let (negative, rest) := readSign rest
      let digits := rest.takeWhile Char.isDigit
      let value : Int := (Text.numeral? 10 digits).getD 0
      if digits.isEmpty then none
      else some (some (if negative then -value else value), rest.dropWhile Char.isDigit)
    else some (none, c :: rest)

def readNumeral (s : List Char) : Option (Numeral × List Char) := do
  let negative := s.head? == some '-'
  let s := if negative then s.tail else s
  let whole := s.takeWhile Char.isDigit
  if whole.isEmpty || (whole.head? == some '0' && 1 < whole.length) then none
  let (fraction, rest) ← readFraction (s.dropWhile Char.isDigit)
  let (exponent, rest) ← readExponent rest
  some ({ negative, whole, fraction, exponent }, rest)

def readNumber (s : List Char) : Option (Json × List Char) := do
  let (n, rest) ← readNumeral s
  match n.integer? with
  | some value => some (integer value, rest)
  | none => if n.isTooLarge then none else some (decimal (s.take (s.length - rest.length)), rest)

/-- A value without parts. -/
def readScalar (s : List Char) : Option (Json × List Char) :=
  match s with
  | 'n' :: 'u' :: 'l' :: 'l' :: rest => some (null, rest)
  | 't' :: 'r' :: 'u' :: 'e' :: rest => some (bool true, rest)
  | 'f' :: 'a' :: 'l' :: 's' :: 'e' :: rest => some (bool false, rest)
  | '"' :: rest => (readText rest).map fun p => (string p.1, p.2)
  | s => readNumber s

/-- At most `most` items, with commas between them, up to the closing bracket. -/
def readItems {α : Type} (item : List Char → Option (α × List Char)) (close : Char) :
    Nat → List Char → Option (List α × List Char)
  | 0, _ => none
  | most + 1, s => do
    let (a, rest) ← item s
    match skipBlanks rest with
    | ',' :: rest =>
      let (items, rest) ← readItems item close most rest
      some (a :: items, rest)
    | c :: rest => if c = close then some ([a], rest) else none
    | [] => none

/-- What stands behind an opening bracket; every item takes up one character at least. -/
def readParts {α : Type} (item : List Char → Option (α × List Char)) (close : Char)
    (s : List Char) : Option (List α × List Char) :=
  match skipBlanks s with
  | c :: rest => if c = close then some ([], rest) else readItems item close s.length s
  | [] => none

def readMember (value : List Char → Option (Json × List Char)) (s : List Char) :
    Option ((List Char × Json) × List Char) :=
  match skipBlanks s with
  | '"' :: rest => do
    let (name, rest) ← readText rest
    match skipBlanks rest with
    | ':' :: rest =>
      let (j, rest) ← value rest
      some ((name, j), rest)
    | _ => none
  | _ => none

/-- A value in which arrays and objects are nested at most `depth` deep. -/
def readValue : Nat → List Char → Option (Json × List Char)
  | 0, s => readScalar (skipBlanks s)
  | depth + 1, s =>
    match skipBlanks s with
    | '[' :: rest => (readParts (readValue depth) ']' rest).map fun p => (array p.1, p.2)
    | '\x7b' :: rest =>
      (readParts (readMember (readValue depth)) '\x7d' rest).map fun p => (object p.1, p.2)
    | s => readScalar s

def maxDepth : Nat := 127

/-- The document that a text writes. -/
def parse? (s : List Char) : Option Json :=
  match readValue maxDepth s with
  | some (j, rest) => if (skipBlanks rest).isEmpty then some j else none
  | none => none

end LoginGateway.Json
