import LoginGateway.Text.Number

/-!
Decimal integers within bounds, read from left to right: the first character that is no digit, or
the first digit that leads out of the bounds, decides what is wrong. A plus sign may stand in front,
and a minus sign where negative numbers are allowed.
-/

namespace LoginGateway.Text

inductive IntegerFault
  | empty
  | digit
  | tooLarge
  | tooSmall
deriving DecidableEq, Repr

namespace IntegerFault

def message : IntegerFault → String
  | empty => "cannot parse integer from empty string"
  | digit => "invalid digit found in string"
  | tooLarge => "number too large to fit in target type"
  | tooSmall => "number too small to fit in target type"

end IntegerFault

/-- The value of digits behind `value`, which never exceeds `most`. -/
def readDigits (most : Nat) (beyond : IntegerFault) : Nat → List Char → Except IntegerFault Nat
  | value, [] => .ok value
  | value, c :: rest =>
    if c.isDigit then
      let next := value * 10 + (c.toNat - 0x30)
      if most < next then .error beyond else readDigits most beyond next rest
    else .error .digit

/-- A numeral that may not be empty. -/
def readNumeral (most : Nat) (beyond : IntegerFault) (s : List Char) : Except IntegerFault Nat :=
  if s.isEmpty then .error .digit else readDigits most beyond 0 s

/-- An integer from zero to `most`. -/
def readNatural (most : Nat) : List Char → Except IntegerFault Nat
  | [] => .error .empty
  | '+' :: rest => readNumeral most .tooLarge rest
  | s => readNumeral most .tooLarge s

/-- An integer of 64 bits with a sign. -/
def readInt64 : List Char → Except IntegerFault Int
  | '-' :: rest => (readNumeral (Nat.pow 2 63) .tooSmall rest).map fun n => -(n : Int)
  | s => (readNatural (Nat.pow 2 63 - 1) s).map Int.ofNat

end LoginGateway.Text
