import LoginGateway.Text.Split

/-!
Punycode: a label with characters outside ASCII, written in letters, digits and hyphens. The plain
characters come first; then, in ascending order of code point, each other character is written as
its distance, in turns of insertion, from the one before. Distances are little-endian numerals whose
digits have varying bases, so that a numeral shows where it ends.
-/

namespace LoginGateway.Punycode

def digit (d : Nat) : Char := Char.ofNat (if d < 26 then 0x61 + d else 0x16 + d)

def digitValue? (c : Char) : Option Nat :=
  if 'a' ≤ c ∧ c ≤ 'z' then some (c.toNat - 0x61)
  else if '0' ≤ c ∧ c ≤ '9' then some (c.toNat - 0x16)
  else none

/-- The least digit that does not end the numeral at its `position`. -/
def threshold (position bias : Nat) : Nat := min 26 (max 1 (position - bias))

def scaleDown (delta turns : Nat) : Nat × Nat :=
  if 455 < delta then scaleDown (delta / 35) (turns + 36) else (delta, turns)
termination_by delta
decreasing_by omega

/-- The bias after a distance `delta`, when `count` characters have been placed. -/
def adapt (delta count : Nat) (isFirst : Bool) : Nat :=
  let halved := if isFirst then delta / 700 else delta / 2
  let (rest, turns) := scaleDown (halved + halved / count) 0
  turns + 36 * rest / (rest + 38)

def writeDelta (bias position q : Nat) : List Char :=
  let t := threshold position bias
  if q < t then [digit q]
  else digit (t + (q - t) % (36 - t)) :: writeDelta bias (position + 36) ((q - t) / (36 - t))
termination_by q
decreasing_by
  have ht : 1 ≤ threshold position bias := by simp only [threshold]; omega
  have hle := Nat.div_le_self (q - threshold position bias) (36 - threshold position bias)
  omega

structure Progress where
  written : List Char
  delta : Nat
  bias : Nat
  placed : Nat

/-- One pass over the label for the code point `n`: smaller characters are skipped over, and each
equal one is written. -/
def place (label : List Char) (plain n : Nat) (p : Progress) : Progress :=
  label.foldl (fun p c =>
    if c.toNat < n then { p with delta := p.delta + 1 }
    else if c.toNat = n then
      { written := p.written ++ writeDelta p.bias 36 p.delta
        delta := 0
        bias := adapt p.delta (p.placed + 1) (p.placed == plain)
        placed := p.placed + 1 }
    else p) p

def placeAll (label : List Char) (plain : Nat) : List Nat → Nat → Progress → Progress
  | [], _, p => p
  | n :: later, reached, p =>
    let p := place label plain n { p with delta := p.delta + (n - reached) * (p.placed + 1) }
    placeAll label plain later (n + 1) { p with delta := p.delta + 1 }

def insertCode (n : Nat) : List Nat → List Nat
  | [] => [n]
  | m :: rest => if n < m then n :: m :: rest else if n = m then m :: rest else m :: insertCode n rest

def isPlain (c : Char) : Bool := c.toNat < 0x80

def encode (label : List Char) : List Char :=
  let plain := label.filter isPlain
  let codes := ((label.filter (!isPlain ·)).map Char.toNat).foldr insertCode []
  let start : Progress := { written := [], delta := 0, bias := 72, placed := plain.length }
  plain ++ (if plain.isEmpty then [] else ['-']) ++
    (placeAll label plain.length codes 0x80 start).written

/-- Reads one numeral: its value added to `value`, and what follows it. -/
def readDelta (bias : Nat) : List Char → Nat → Nat → Nat → Option (Nat × List Char)
  | [], _, _, _ => none
  | c :: rest, position, weight, value =>
    match digitValue? c with
    | none => none
    | some d =>
      let t := threshold position bias
      if d < t then some (value + d * weight, rest)
      else readDelta bias rest (position + 36) (weight * (36 - t)) (value + d * weight)

theorem readDelta_length {bias : Nat} {s rest : List Char} {position weight value n : Nat}
    (h : readDelta bias s position weight value = some (n, rest)) : rest.length < s.length := by
  induction s generalizing position weight value with
  | nil => simp [readDelta] at h
  | cons c s ih =>
      simp only [readDelta] at h
      split at h
      · simp at h
      · split at h
        · simp only [Option.some.injEq, Prod.mk.injEq] at h
          simp [h.2]
        · exact Nat.lt_succ_of_lt (ih h)

/-- Inserts one character after another; a value that is no character ends the reading. -/
def insertAll (s : List Char) (code index bias : Nat) (out : List Char) : Option (List Char) :=
  if s.isEmpty then some out
  else
    match h : readDelta bias s 36 1 index with
    | none => none
    | some (n, rest) =>
      let count := out.length + 1
      let next := code + n / count
      have := readDelta_length h
      if next.isValidChar then
        insertAll rest next (n % count + 1) (adapt (n - index) count (index == 0))
          (out.take (n % count) ++ Char.ofNat next :: out.drop (n % count))
      else none
termination_by s.length

def decode? (s : List Char) : Option (List Char) :=
  match Text.cutAtLast? '-' s with
  | none => insertAll s 0x80 0 72 []
  | some ([], _) => none
  | some (plain, rest) => if plain.all isPlain then insertAll rest 0x80 0 72 plain else none

end LoginGateway.Punycode
