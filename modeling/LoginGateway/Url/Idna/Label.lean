import LoginGateway.Url.Idna.Mapping
import LoginGateway.Url.Idna.Composition
import LoginGateway.Url.Idna.Shaping

/-!
Labels of international domain names: their canonical spelling (mapping, then canonical composition)
and the characters they may contain. A label is allowed if each of its characters is valid, it
begins with no mark, every joiner stands where it shapes the letters around it, and, in a domain
that is partly written from right to left, its directions agree.
-/

namespace LoginGateway.Idna

def codePoints (s : List Char) : List Char :=
  ((Text.splitOn '.' s).filter (!·.isEmpty)).map fun code => Char.ofNat (CodeTable.number code)

/-- The spelling that takes the place of an allowed character; none for a disallowed one. -/
def replacement? (c : Char) : Option (List Char) :=
  if valid.covers c then some [c]
  else
    match replaced.lookup c.toNat with
    | none => none
    | some s =>
      match s.note with
      | '=' :: codes => some (codePoints codes)
      | '/' :: _ :: ':' :: '+' :: offset =>
        if (c.toNat - s.first) % 2 = 0 then some [Char.ofNat (c.toNat + CodeTable.number offset)]
        else none
      | '/' :: _ :: ':' :: '-' :: offset =>
        if (c.toNat - s.first) % 2 = 0 then some [Char.ofNat (c.toNat - CodeTable.number offset)]
        else none
      | ':' :: '+' :: offset => some [Char.ofNat (c.toNat + CodeTable.number offset)]
      | ':' :: '-' :: offset => some [Char.ofNat (c.toNat - CodeTable.number offset)]
      | _ => none

def combiningClass (c : Char) : Nat :=
  ((combiningClasses.lookup c.toNat).bind fun s => Text.numeral? 10 (s.note.drop 1)).getD 0

def syllableBase : Nat := 0xAC00
def leadBase : Nat := 0x1100
def vowelBase : Nat := 0x1161
def tailBase : Nat := 0x11A7

def isSyllable (n : Nat) : Bool := syllableBase ≤ n && n < syllableBase + 11172

/-- The full canonical decomposition. A decomposition by the table takes at most four steps. -/
def decompose : Nat → Char → List Char
  | 0, c => [c]
  | steps + 1, c =>
    let n := c.toNat
    if isSyllable n then
      let index := n - syllableBase
      let tail := index % 28
      [Char.ofNat (leadBase + index / 588), Char.ofNat (vowelBase + index % 588 / 28)] ++
        (if tail = 0 then [] else [Char.ofNat (tailBase + tail)])
    else
      (decompositions.lookup n).elim [c] fun s =>
        (codePoints (s.note.drop 1)).flatMap (decompose steps)

/-- Inserts a mark behind the marks whose class is not greater. The marks stand in reverse order. -/
def insertMark (c : Char) (k : Nat) : List (Char × Nat) → List (Char × Nat)
  | [] => [(c, k)]
  | (d, j) :: rest => if k < j ∧ k ≠ 0 then (d, j) :: insertMark c k rest else (c, k) :: (d, j) :: rest

/-- Marks in canonical order, each with its class; latest first. -/
def ordered (s : List Char) : List (Char × Nat) :=
  s.foldl (fun acc c => insertMark c (combiningClass c) acc) []

def composePair? (a b : Char) : Option Char :=
  let m := a.toNat
  let n := b.toNat
  if leadBase ≤ m ∧ m < leadBase + 19 ∧ vowelBase ≤ n ∧ n < vowelBase + 21 then
    some (Char.ofNat (syllableBase + ((m - leadBase) * 21 + (n - vowelBase)) * 28))
  else if isSyllable m ∧ (m - syllableBase) % 28 = 0 ∧ tailBase < n ∧ n < tailBase + 28 then
    some (Char.ofNat (m + (n - tailBase)))
  else
    (decompositions.find? fun s : Stretch =>
      s.note.head? = some '=' && codePoints (s.note.drop 1) == [a, b]).map fun s => Char.ofNat s.first

structure Composing where
  done : List Char
  starter : Option Char
  marks : List Char
  lastClass : Nat

/-- A mark joins the starter unless one of its own class, or a starter, stands between them. -/
def Composing.step (p : Composing) (c : Char) (k : Nat) : Composing :=
  let composed :=
    match p.starter with
    | some a => if p.marks.isEmpty ∨ (p.lastClass < k ∧ p.lastClass ≠ 0) then composePair? a c else none
    | none => none
  match composed with
  | some d => { p with starter := some d }
  | none =>
    if k = 0 then
      { done := p.done ++ p.starter.toList ++ p.marks, starter := some c, marks := [], lastClass := 0 }
    else { p with marks := p.marks ++ [c], lastClass := k }

def compose (s : List Char) : List Char :=
  let marked := (ordered (s.flatMap (decompose 4))).reverse
  let p := marked.foldl (fun (p : Composing) m => p.step m.1 m.2) ⟨[], none, [], 0⟩
  p.done ++ p.starter.toList ++ p.marks

def joiningType (c : Char) : List Char :=
  match joining.lookup c.toNat with
  | some s => s.note.drop 1
  | none => ['U']

/-- The nearest joining type that is not transparent. -/
def nextJoining (s : List Char) : List Char :=
  ((s.map joiningType).dropWhile (· == ['T'])).headD ['U']

/-- Joiners follow a virama, or, for the one that breaks a joint, stand between letters that join. -/
def joinersAllowed : List Char → List Char → Bool
  | _, [] => true
  | before, c :: rest =>
    (if c.toNat = 0x200C ∨ c.toNat = 0x200D then
      (before.head?.map combiningClass == some 9) ||
        (c.toNat == 0x200C && ["L".toList, "D".toList].contains (nextJoining before) &&
          ["R".toList, "D".toList].contains (nextJoining rest))
      else true) &&
    joinersAllowed (c :: before) rest

def direction (c : Char) : List Char :=
  match directions.lookup c.toNat with
  | some s => s.note.drop 1
  | none => ['L']

def isRightToLeft (d : List Char) : Bool := d == "R".toList || d == "AL".toList

/-- Whether a label contains characters that run from right to left. -/
def hasRightToLeft (label : List Char) : Bool :=
  label.any fun c => isRightToLeft (direction c) || direction c == "AN".toList

def directionsAgree (label : List Char) : Bool :=
  match label.map direction with
  | [] => true
  | first :: rest =>
    let all := first :: rest
    let last := (all.reverse.dropWhile (· == "NSM".toList)).headD []
    let neutral := ["EN", "ES", "CS", "ET", "ON", "BN", "NSM"].map String.toList
    if isRightToLeft first then
      all.all (fun d => isRightToLeft d || d == "AN".toList || neutral.contains d) &&
        (isRightToLeft last || last == "EN".toList || last == "AN".toList) &&
        !(all.contains "EN".toList && all.contains "AN".toList)
    else if first == ['L'] then
      all.all (fun d => d == ['L'] || neutral.contains d) && (last == ['L'] || last == "EN".toList)
    else false

def isAllowed (label : List Char) : Bool :=
  label.all valid.covers &&
    !(label.head?.any marks.covers) &&
    joinersAllowed [] label

end LoginGateway.Idna
