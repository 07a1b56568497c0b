import LoginGateway.Text.Number

/-!
Numeric hosts. A dotted address may leave out bytes and may be written in octal or hexadecimal;
it is always printed as four decimal bytes. A colon address is eight groups, of which one stretch
of zeros may be left out; it is printed with its longest stretch, of two groups at least, left out.
-/

namespace LoginGateway

structure Ipv4 where
  value : UInt32
deriving DecidableEq, Repr

structure Ipv6 where
  groups : List UInt16
  eight : groups.length = 8
deriving DecidableEq, Repr

namespace Ipv4

/-- One part of a dotted address: `0x` begins a hexadecimal, another `0` an octal numeral. -/
def part? : List Char → Option Nat
  | [] => none
  | '0' :: 'x' :: rest => Text.numeral? 16 rest
  | '0' :: 'X' :: rest => Text.numeral? 16 rest
  | ['0'] => some 0
  | '0' :: rest => Text.numeral? 8 rest
  | s => Text.numeral? 10 s

/-- The parts of a dotted name; a dot at the end adds none. -/
def parts (name : List Char) : List (List Char) :=
  let all := Text.splitOn '.' name
  if all.getLast? = some [] then all.dropLast else all

/-- A name whose last part is a numeral stands for an address or for nothing. -/
def isNumeric (name : List Char) : Bool :=
  match (parts name).getLast? with
  | none => false
  | some last => (!last.isEmpty && last.all Char.isDigit) || (part? last).isSome

/-- The leading parts are one byte each; the last one fills what is left of the four. -/
def parse? (name : List Char) : Option Ipv4 := do
  let pieces := parts name
  if 4 < pieces.length then none
  let numbers ← pieces.mapM part?
  let last ← numbers.getLast?
  let leading := numbers.dropLast
  if leading.any (255 < ·) then none
  if Nat.pow 256 (4 - leading.length) ≤ last then none
  some ⟨UInt32.ofNat (leading.foldl (fun acc n => acc * 256 + n) 0 *
    Nat.pow 256 (4 - leading.length) + last)⟩

def bytes (a : Ipv4) : List Nat :=
  let n := a.value.toNat
  [n / 16777216, n / 65536 % 256, n / 256 % 256, n % 256]

def render (a : Ipv4) : List Char := Text.joinWith ['.'] (a.bytes.map Text.decimal)

end Ipv4

namespace Ipv6

def group? (s : List Char) : Option UInt16 :=
  if s.isEmpty ∨ 4 < s.length then none else (Text.numeral? 16 s).map UInt16.ofNat

/-- A decimal byte without leading zeros. -/
def byte? (s : List Char) : Option Nat := do
  if s.isEmpty ∨ 3 < s.length then none
  if s.head? = some '0' ∧ 1 < s.length then none
  let n ← Text.numeral? 10 s
  if n ≤ 255 then some n else none

/-- The last two groups, written as four decimal bytes. -/
def quad? (s : List Char) : Option (List UInt16) := do
  let numbers ← (Text.splitOn '.' s).mapM byte?
  match numbers with
  | [a, b, c, d] => some [UInt16.ofNat (a * 256 + b), UInt16.ofNat (c * 256 + d)]
  | _ => none

def groups? (s : List Char) : Option (List UInt16) :=
  if s.isEmpty then some [] else (Text.splitOn ':' s).mapM group?

/-- Groups of which the last may be a quad. -/
def groupsOrQuad? (s : List Char) : Option (List UInt16) :=
  match groups? s with
  | some gs => some gs
  | none => do
    let pieces := Text.splitOn ':' s
    let last ← pieces.getLast?
    let leading ← pieces.dropLast.mapM group?
    let quad ← quad? last
    some (leading ++ quad)

/-- The text before and after the first double colon. -/
def cutElision? : List Char → Option (List Char × List Char)
  | ':' :: ':' :: rest => some ([], rest)
  | c :: rest => (cutElision? rest).map fun p => (c :: p.1, p.2)
  | [] => none

def ofGroups? (gs : List UInt16) : Option Ipv6 :=
  if h : gs.length = 8 then some ⟨gs, h⟩ else none

/-- A double colon stands for one group of zeros at least. -/
def parse? (s : List Char) : Option Ipv6 :=
  match cutElision? s with
  | none => groupsOrQuad? s >>= ofGroups?
  | some (before, after) => do
    let left ← groups? before
    let right ← groupsOrQuad? after
    if 7 < left.length + right.length then none
    ofGroups? (left ++ List.replicate (8 - left.length - right.length) 0 ++ right)

/-- The number of zeros that a list begins with. -/
def leadingZeros (gs : List UInt16) : Nat := (gs.takeWhile (· == 0)).length

/-- Where the longest stretch of zeros begins and how long it is; the first of equal ones. -/
def longestZeros : List UInt16 → Nat × Nat
  | [] => (0, 0)
  | g :: rest =>
    let here := leadingZeros (g :: rest)
    let later := longestZeros rest
    if later.2 ≤ here then (0, here) else (later.1 + 1, later.2)

def renderGroups (gs : List UInt16) : List Char :=
  Text.joinWith [':'] (gs.map fun g => Text.hexadecimal g.toNat)

def render (a : Ipv6) : List Char :=
  let (start, length) := longestZeros a.groups
  if length < 2 then renderGroups a.groups
  else
    renderGroups (a.groups.take start) ++ "::".toList ++
      renderGroups (a.groups.drop (start + length))

end Ipv6

end LoginGateway
