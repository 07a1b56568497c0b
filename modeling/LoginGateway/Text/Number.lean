import LoginGateway.Text.Split

/-!
Numerals in a base up to sixteen, most significant digit first.
-/

namespace LoginGateway.Text

def digitValue? (c : Char) : Option Nat :=
  let n := c.toNat
  if 0x30 ≤ n ∧ n ≤ 0x39 then some (n - 0x30)
  else if 0x61 ≤ n ∧ n ≤ 0x66 then some (n - 0x57)
  else if 0x41 ≤ n ∧ n ≤ 0x46 then some (n - 0x37)
  else none

/-- The value of a numeral in which every character is a digit of the base. -/
def numeral? (base : Nat) (s : List Char) : Option Nat :=
  s.foldl (fun acc c => do
    let value ← acc
    let d ← digitValue? c
    if d < base then some (value * base + d) else none) (some 0)

def digitChar (d : Nat) : Char := Char.ofNat (if d < 10 then 0x30 + d else 0x57 + d)

/-- The digits of a number, without leading zeros. -/
def digits (base : Nat) (h : 1 < base) (n : Nat) : List Char :=
  if n < base then [digitChar n] else digits base h (n / base) ++ [digitChar (n % base)]
termination_by n
decreasing_by
  have : 0 < n := by omega
  exact Nat.div_lt_self this h

def decimal (n : Nat) : List Char := digits 10 (by decide) n

def hexadecimal (n : Nat) : List Char := digits 16 (by decide) n

end LoginGateway.Text
